import SharedVerifiers.Description.File
import SharedVerifiers.Description.Writing
import SharedVerifiers.Emission
import SharedVerifiers.Proofs.Lawfulness
import SharedVerifiers.Proofs.Verifiers
import SharedVerifiers.Proofs.Arrival
import SharedVerifiers.Proofs.Reached
import SharedVerifiers.Proofs.Matchers
import SharedVerifiers.Proofs.Absorption
import SharedVerifiers.Proofs.Renaming
import SharedVerifiers.Proofs.Rearrangement
import SharedVerifiers.Proofs.Grammar
import SharedVerifiers.Proofs.Labels
import SharedVerifiers.Proofs.Rereading
import SharedVerifiers.Proofs.Retrying
import SharedVerifiers.Proofs.RoundTrip
import SharedVerifiers.Proofs.Hoistability
import SharedVerifiers.Proofs.Kept
import SharedVerifiers.Proofs.Marks
import SharedVerifiers.Proofs.Signatures
import SharedVerifiers.Proofs.Literals
import SharedVerifiers.Proofs.Ink
import SharedVerifiers.Proofs.Identifiers
import SharedVerifiers.Proofs.FirstSeen
