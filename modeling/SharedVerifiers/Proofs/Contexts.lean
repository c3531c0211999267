import SharedVerifiers.Emission
import SharedVerifiers.Proofs.Substitution
namespace SharedVerifiers
open Condition

namespace Condition.Bindings

theorem Agree.trans {first second third : Bindings} (left : first.Agree second) (right : second.Agree third) :
    first.Agree third :=
  fun name => (left name).trans (right name)

theorem bind_again (b : Bindings) (name old value : String) :
    ((b.bind name old).bind name value).Agree (b.bind name value) := by
  intro asked
  simp only [get_bind]
  by_cases here : asked = name <;> simp [here]

end Condition.Bindings

-- The emitter binds the operation before it binds the value under test, the
-- classifier the other way round.
theorem verifierContext_agrees (k : Kind) : (verifierContext.bind selfName k.name).Agree (verifierBindings k) :=
  Bindings.empty.bind_swapped (by decide) operationExpression k.name

theorem matcherContext_agrees (k : Kind) : (matcherContext.bind selfName k.name).Agree (matcherBindings k) :=
  (verifierContext.bind_swapped (by decide) builderExpression k.name).trans ((verifierContext_agrees k).bind _ _)

namespace Entry
variable (e : Entry) (k : Kind)

theorem slots_agree {left right : Bindings} (agree : left.Agree right) (param : String) (generic : Bool) :
    e.slots left param generic = e.slots right param generic := by
  have same : resolve e.constraint.condition left = resolve e.constraint.condition right :=
    resolve_agree fun name _ => agree name
  rw [slots,slots,same]

theorem verifierIn_agree {left right : Bindings} (agree : left.Agree right) : e.verifierIn left k = e.verifierIn right k := by
  rw [verifierIn,verifierIn,e.slots_agree agree]

theorem matcherIn_agree {left right : Bindings} (agree : left.Agree right) : e.matcherIn left k = e.matcherIn right k := by
  rw [matcherIn,matcherIn,e.slots_agree agree]

theorem verifier_condition : (e.verifier k).slots.condition = (e.constraint.verifierText k).text := by
  rw [verifier,e.verifierIn_agree k (verifierContext_agrees k)]
  rfl

theorem matcher_condition : (e.matcher k).slots.condition = (e.constraint.matcherText k).text := by
  rw [matcher,e.matcherIn_agree k (matcherContext_agrees k)]
  rfl

end Entry

namespace Tables

theorem instances_each (t : Tables) {make : Entry → Bindings → Kind → Instance}
    (makes : ∀ e k {left right : Bindings}, left.Agree right → make e left k = make e right k)
    {b current : Bindings} (agrees : ∀ value, (current.bind selfName value).Agree (b.bind selfName value))
    (kinds : List Kind) : t.instances make current kinds =
      kinds.flatMap fun k => (t.registry k).entries.map fun e => make e (b.bind selfName k.name) k := by
  induction kinds generalizing current with
  | nil => rfl
  | cons k rest ih =>
    -- What this kind binds, the next binds over.
    have onward : ∀ value, ((current.bind selfName k.name).bind selfName value).Agree (b.bind selfName value) :=
      fun value => (current.bind_again selfName k.name value).trans (agrees value)
    rw [instances,ih onward,List.flatMap_cons]
    congr 2
    funext e
    exact makes e k (agrees k.name)

theorem verifiers_each (t : Tables) :
    t.verifiers = Kind.all.flatMap fun k => (t.registry k).entries.map fun e => e.verifier k :=
  t.instances_each (fun e k => e.verifierIn_agree k) (fun _ _ => rfl) Kind.all

theorem matchers_each (t : Tables) :
    t.matchers = matcherKinds.flatMap fun k => (t.registry k).entries.map fun e => e.matcher k :=
  t.instances_each (fun e k => e.matcherIn_agree k) (fun _ _ => rfl) matcherKinds

theorem verifier_written {t : Tables} {k : Kind} {e : Entry} (member : e ∈ (t.registry k).entries) :
    e.verifier k ∈ t.verifiers := by
  rw [verifiers_each]
  exact List.mem_flatMap.mpr ⟨k,k.mem_all,List.mem_map_of_mem member⟩

end Tables

end SharedVerifiers
