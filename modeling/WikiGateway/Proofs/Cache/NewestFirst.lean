import Mathlib.Algebra.Order.Field.Basic

/-! Caches that are asked for pages one request after the other, and the simplest of them: a list of
pages, newest first, that is cut off at the capacity. -/
namespace WikiGateway.Cache

variable {σ τ α : Type}

/-- What may be asked of a cache. -/
inductive Request (α : Type)
  | put (title : String) (text : α)
  | get (title : String)
  | delete (title : String)
  | clear

/-- What a cache in a state of `σ` does about requests, none of which can fail. -/
structure Operations (σ τ α : Type) where
  get : σ → String → τ → Option α
  put : σ → String → α → τ → σ
  delete : σ → String → σ
  clear : σ → σ

namespace Operations

/-- The cache after a request at a time. -/
def after (cache : Operations σ τ α) (s : σ) (step : τ × Request α) : σ :=
  match step.2 with
  | .put title text => cache.put s title text step.1
  | .get _ => s
  | .delete title => cache.delete s title
  | .clear => cache.clear s

def afterAll (cache : Operations σ τ α) (s : σ) (steps : List (τ × Request α)) : σ :=
  steps.foldl cache.after s

/-- The answer to a request, if it is for a page. -/
def answer? (cache : Operations σ τ α) (s : σ) (step : τ × Request α) : Option (Option α) :=
  match step.2 with
  | .get title => some (cache.get s title step.1)
  | _ => none

/-- What each request for a page is answered, the others being carried out in between. -/
def answers (cache : Operations σ τ α) : σ → List (τ × Request α) → List (Option α)
  | _, [] => []
  | s, step :: steps => (cache.answer? s step).toList ++ answers cache (cache.after s step) steps

end Operations

/-- A page in a list, with its text and the time when it was put in. -/
abbrev Held (τ α : Type) : Type := String × α × τ

namespace NewestFirst

variable [Field τ] [LinearOrder τ]

/-- The text of a page in the list, unless it is too old. -/
def get (ttl : Nat) (held : List (Held τ α)) (title : String) (now : τ) : Option α :=
  match held.find? (·.1 = title) with
  | none => none
  | some (_, text, time) => if now - time < ttl then some text else none

def delete (held : List (Held τ α)) (title : String) : List (Held τ α) :=
  held.filter (·.1 ≠ title)

/-- Puts a page in front. Nothing is driven out for its age. -/
def put (capacity : Nat) (held : List (Held τ α)) (title : String) (text : α) (now : τ) :
    List (Held τ α) :=
  ((title, text, now) :: delete held title).take capacity

/-- The list as a cache. -/
def operations (capacity ttl : Nat) : Operations (List (Held τ α)) τ α where
  get := get ttl
  put := put capacity
  delete := delete
  clear _ := []

end NewestFirst

end WikiGateway.Cache
