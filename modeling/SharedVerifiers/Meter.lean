import SharedVerifiers.Digest
import SharedVerifiers.Sink
namespace SharedVerifiers

structure Meter where
  bytes : Nat := 0
  digest : Digest.Running := {}

def Meter.passed (m : Meter) (buffer : List UInt8) (n : Nat) : Meter :=
  ⟨m.bytes + n,m.digest.update (buffer.take n)⟩

-- What was offered and not taken is not counted.
def Sink.metered {σ : Type} (k : Sink σ) : Sink (σ × Meter) where
  write s buffer := match k.write s.1 buffer with
    | (after,.ok n) => ((after,s.2.passed buffer n),.ok n)
    | (after,.error reason) => ((after,s.2),.error reason)
  flush s := match k.flush s.1 with
    | (after,answer) => ((after,s.2),answer)
  write_le s buffer after n took := by
    split at took
    · rename_i given
      cases took
      exact k.write_le s.1 buffer _ _ given
    · cases took

end SharedVerifiers
