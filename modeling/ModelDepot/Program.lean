import ModelDepot.Authority.Call
import ModelDepot.Store
import ModelDepot.Log.Basic
import ModelDepot.Event

/-!
Activities of the service as programs: trees of calls to the collaborators, each with what to do
for every answer. A program can be run against any surroundings, in one go or call by call.
-/
namespace ModelDepot

/-- What is asked of the document store. -/
inductive StoreCall where
  | upsert (doc : Document)
  | delete (id : String)
  | get (id : String)
  | list (options : ListOptions)
  | listPublished
  | allIds
  | staleIds (cutoff : Int64)

/-- What a call is answered with when it succeeds. -/
abbrev StoreCall.Value : StoreCall → Type
  | .upsert _ => Unit
  | .delete _ => Bool
  | .get _ => Option Document
  | .list _ => DocumentPage
  | .listPublished => List Document
  | .allIds => IdSet
  | .staleIds _ => IdSet

/-- The answer to a call, and the store after it. -/
def Store.respond (store : Store) : (call : StoreCall) → Except StoreError call.Value × Store
  | .upsert doc =>
    match store.upsert doc with
    | .ok changed => (.ok (), changed)
    | .error problem => (.error problem, store)
  | .delete id =>
    let (held, changed) := store.delete id
    (.ok held, changed)
  | .get id => (store.get id, store)
  | .list options => (store.list options, store)
  | .listPublished => (store.listPublished, store)
  | .allIds => (.ok store.allIds, store)
  | .staleIds cutoff => (.ok (store.staleIds cutoff), store)

/-- Everything that an activity may ask of its surroundings. -/
inductive Call where
  | authority (call : AuthorityCall)
  | store (call : StoreCall)
  | append (topic : String) (key value : List UInt8)
  /-- The time in seconds. -/
  | now
  /-- An id that was not used before. -/
  | freshId
  | report (event : Event)

abbrev Call.Answer : Call → Type
  | .authority call => Except AuthorityError call.Value
  | .store call => Except StoreError call.Value
  | .append .. => Except LogError (Nat × Nat)
  | .now => Int64
  | .freshId => String
  | .report _ => Unit

/-- An activity that ends with a value or fails. -/
inductive Program (ε α : Type) where
  | done (result : Except ε α)
  | ask (call : Call) (next : call.Answer → Program ε α)

namespace Program
variable {δ ε α β : Type}

def bind : Program ε α → (α → Program ε β) → Program ε β
  | .done (.ok value), f => f value
  | .done (.error problem), _ => .done (.error problem)
  | .ask call next, f => .ask call fun answer => (next answer).bind f

instance : Monad (Program ε) where
  pure value := .done (.ok value)
  bind := bind

def fail (problem : ε) : Program ε α := .done (.error problem)

/-- The same activity with its failures in another form. -/
def mapError (f : δ → ε) : Program δ α → Program ε α
  | .done (.ok value) => .done (.ok value)
  | .done (.error problem) => .done (.error (f problem))
  | .ask call next => .ask call fun answer => (next answer).mapError f

/-- The same activity with its failure as a value. -/
def attempt : Program ε α → Program δ (Except ε α)
  | .done result => .done (.ok result)
  | .ask call next => .ask call fun answer => (next answer).attempt

def ofExcept (f : δ → ε) : Except δ α → Program ε α
  | .ok value => .done (.ok value)
  | .error problem => .done (.error (f problem))

/-- One call to the authority. -/
def authority (f : AuthorityError → ε) (call : AuthorityCall) : Program ε call.Value :=
  .ask (.authority call) (ofExcept f)

/-- One call to the store. -/
def store (f : StoreError → ε) (call : StoreCall) : Program ε call.Value :=
  .ask (.store call) (ofExcept f)

def append (f : LogError → ε) (topic : String) (key value : List UInt8) :
    Program ε (Nat × Nat) :=
  .ask (.append topic key value) (ofExcept f)

def now : Program ε Int64 := .ask .now fun time => .done (.ok time)
def freshId : Program ε String := .ask .freshId fun id => .done (.ok id)
def report (event : Event) : Program ε Unit := .ask (.report event) fun _ => .done (.ok ())

/-- Runs an activity in surroundings that answer every call. -/
def run {σ : Type} (answer : (call : Call) → σ → call.Answer × σ) :
    Program ε α → σ → Except ε α × σ
  | .done result, s => (result, s)
  | .ask call next, s =>
    let (a, s) := answer call s
    (next a).run answer s

end Program
end ModelDepot
