import FilterPrep.Location

/-!
# Fetching

A fetcher answers requests with texts or errors. A computation that fetches is described by its
result together with the requests it makes, in order.
-/

namespace FilterPrep

inductive Request where
  | remote (address : Text)
  /-- A path, as seen from the directory `origin`. -/
  | onDisk (path : Text) (origin : Option Text)
  deriving DecidableEq, Repr

abbrev Fetcher := Request → Except FetchError Text

/-- A computation with the requests it makes; it stops at its first error. -/
structure Traced (α : Type) where
  result : Except CompileError α
  requests : List Request

namespace Traced

variable {α β : Type}

/-- A result without any request. -/
def ofExcept (result : Except CompileError α) : Traced α := ⟨result, []⟩

def fail (error : CompileError) : Traced α := ⟨.error error, []⟩

/-- Goes on with `next` after a success, behind the requests made so far. -/
def andThen (first : Traced α) (next : α → Traced β) : Traced β :=
  match first.result with
  | .ok a => ⟨(next a).result, first.requests ++ (next a).requests⟩
  | .error error => ⟨.error error, first.requests⟩

instance : Monad Traced where
  pure a := ⟨.ok a, []⟩
  bind := andThen

@[simp] theorem ok_bind (a : α) (requests : List Request) (next : α → Traced β) :
    (⟨.ok a, requests⟩ : Traced α) >>= next =
      ⟨(next a).result, requests ++ (next a).requests⟩ := rfl

@[simp] theorem error_bind (error : CompileError) (requests : List Request)
    (next : α → Traced β) :
    (⟨.error error, requests⟩ : Traced α) >>= next = ⟨.error error, requests⟩ := rfl

instance : LawfulMonad Traced := LawfulMonad.mk' Traced
  (by
    intro α t
    obtain ⟨error | a, requests⟩ := t
    · rfl
    · exact congrArg (Traced.mk _) (List.append_nil requests))
  (by
    intro α β a f
    rfl)
  (by
    intro α β γ t f g
    obtain ⟨error | a, requests⟩ := t
    · rfl
    · rw [ok_bind, ok_bind]
      obtain ⟨error | b, more⟩ := f a
      · rfl
      · simp only [ok_bind, List.append_assoc])

def mapError (f : CompileError → CompileError) (t : Traced α) : Traced α :=
  ⟨t.result.mapError f, t.requests⟩

end Traced

def Fetcher.get (fetcher : Fetcher) (request : Request) : Traced Text :=
  ⟨(fetcher request).mapError .fetch, [request]⟩

/-- The request for a target that is located at `location`. -/
def Location.request (location : Location) (target : Text) (origin : Option Text) : Request :=
  match location with
  | .remote address => .remote address
  | .onDisk _ => .onDisk target origin

end FilterPrep
