import BuildTags.Failure
import BuildTags.Note
import BuildTags.Repository.Request

namespace BuildTags

inductive Event
  | note (note : Note)
  | request (request : Repository.Request)
  deriving DecidableEq, Repr

/-- A result, or the failure in its place, and what happened before it. -/
structure Traced (α : Type) where
  events : List Event
  outcome : Except Failure α
  deriving Repr

namespace Traced

variable {α β : Type}

def bind (first : Traced α) (next : α → Traced β) : Traced β :=
  match first.outcome with
  | .ok a => ⟨first.events ++ (next a).events, (next a).outcome⟩
  | .error failure => ⟨first.events, .error failure⟩

instance : Monad Traced where
  pure a := ⟨[], .ok a⟩
  bind := bind

def of (outcome : Except Failure α) : Traced α := ⟨[], outcome⟩

instance : MonadLift (Except Failure) Traced := ⟨of⟩

instance : MonadLift (Except Pattern.Fault) Traced := ⟨fun x => of (x.mapError .pattern)⟩

instance : MonadLift (Except Numeral.Fault) Traced := ⟨fun x => of (x.mapError .numeral)⟩

def fail (failure : Failure) : Traced α := ⟨[], .error failure⟩

def notes (notes : List Note) : Traced Unit := ⟨notes.map .note, .ok ()⟩

def note (level : Level) (text : Text) : Traced Unit := notes [⟨level, text⟩]

def request (request : Repository.Request) : Traced Unit := ⟨[.request request], .ok ()⟩

def recover (traced : Traced α) (handler : Failure → Option (Traced α)) : Traced α :=
  match traced.outcome with
  | .ok _ => traced
  | .error failure =>
    match handler failure with
    | some rest => ⟨traced.events ++ rest.events, rest.outcome⟩
    | none => traced

theorem outcome_bind (first : Traced α) (next : α → Traced β) :
    (first >>= next).outcome = first.outcome >>= fun a => (next a).outcome := by
  show (bind first next).outcome = _
  unfold bind
  cases first.outcome <;> rfl

end Traced

def Event.note? : Event → Option Note
  | .note line => some line
  | .request _ => none

def Event.request? : Event → Option Repository.Request
  | .request asked => some asked
  | .note _ => none

end BuildTags
