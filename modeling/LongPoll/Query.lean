import LongPoll.Fault
import LongPoll.Index

/-!
Blocking queries.

A caller chooses the base of a query; the cache adds the index it holds and the time the agent may
wait. `parameters` lists what the query says in its URL. The token is not among them, it travels in
a header.
-/

namespace LongPoll

/-- How far behind the leader an answering server may be. -/
inductive Consistency where
  | default
  | consistent
  | stale
  deriving DecidableEq, Repr

/-- Metadata that a node has to carry: names with values, in the order of the names. -/
structure NodeMeta where
  pairs : List (String × String)
  sorted : pairs.Pairwise fun a b => a.1 < b.1

namespace NodeMeta

def empty : NodeMeta := ⟨[], .nil⟩

/-- Put a pair in its place; a pair with the same name is replaced. -/
def insertPair (name value : String) : List (String × String) → List (String × String)
  | [] => [(name, value)]
  | p :: rest =>
    if name < p.1 then (name, value) :: p :: rest
    else if name = p.1 then (name, value) :: rest
    else p :: insertPair name value rest

theorem mem_insertPair {name value : String} {q : String × String}
    {pairs : List (String × String)} (h : q ∈ insertPair name value pairs) :
    q = (name, value) ∨ q ∈ pairs := by
  induction pairs with
  | nil => simpa [insertPair] using h
  | cons p rest ih =>
    simp only [insertPair] at h
    split at h
    · simpa using h
    · split at h
      · simp only [List.mem_cons] at h ⊢
        rcases h with h | h
        · exact .inl h
        · exact .inr (.inr h)
      · simp only [List.mem_cons] at h ⊢
        rcases h with h | h
        · exact .inr (.inl h)
        · exact (ih h).imp id .inr

theorem pairwise_insertPair {name value : String} {pairs : List (String × String)}
    (h : pairs.Pairwise fun a b => a.1 < b.1) :
    (insertPair name value pairs).Pairwise fun a b => a.1 < b.1 := by
  induction pairs with
  | nil => simp [insertPair]
  | cons p rest ih =>
    simp only [List.pairwise_cons] at h
    simp only [insertPair]
    split
    · next hlt =>
      simp only [List.pairwise_cons, List.mem_cons]
      refine ⟨?_, h.1, h.2⟩
      rintro q (rfl | hq)
      · exact hlt
      · exact String.lt_trans hlt (h.1 q hq)
    · next hnlt =>
      split
      · next heq =>
        simp only [List.pairwise_cons]
        exact ⟨fun q hq => heq ▸ h.1 q hq, h.2⟩
      · next hne =>
        simp only [List.pairwise_cons]
        refine ⟨fun q hq => ?_, ih h.2⟩
        rcases mem_insertPair hq with rfl | hq
        · exact String.not_le.1 fun hle => hne (String.le_antisymm hle (String.not_lt.1 hnlt))
        · exact h.1 q hq

/-- Demand a value for a name; a value demanded before is replaced. -/
def insert (m : NodeMeta) (name value : String) : NodeMeta :=
  ⟨insertPair name value m.pairs, pairwise_insertPair m.sorted⟩

/-- The demands of a list, later ones over earlier ones. -/
def ofList (pairs : List (String × String)) : NodeMeta :=
  pairs.foldl (fun m p => m.insert p.1 p.2) empty

end NodeMeta

/-- A blocking query. -/
structure Query where
  /-- Wait until the set has another index than this. -/
  index : Option Index
  /-- How long the agent may wait. -/
  wait : Option String
  consistency : Consistency
  /-- The access token. -/
  token : Option String
  /-- Sort the answer by distance from this node. -/
  near : Option String
  datacenter : Option String
  tags : List String
  nodeMeta : NodeMeta
  filter : Option String

namespace Query

/-- A query that asks for nothing special. -/
def blank : Query where
  index := none
  wait := none
  consistency := .default
  token := none
  near := none
  datacenter := none
  tags := []
  nodeMeta := .empty
  filter := none

/-- A parameter for a field that may be unset. -/
def optional (name : String) (value : Option String) : List (String × String) :=
  value.toList.map (name, ·)

/-- A parameter without a value, for a consistency other than the default. -/
def consistencyFlag : Consistency → List (String × String)
  | .default => []
  | .consistent => [("consistent", "")]
  | .stale => [("stale", "")]

/-- What the query says in its URL, in order. -/
def parameters (q : Query) : List (String × String) :=
  optional "index" (q.index.map Index.text) ++
  optional "wait" q.wait ++
  consistencyFlag q.consistency ++
  optional "near" q.near ++
  optional "dc" q.datacenter ++
  q.tags.map ("tag", ·) ++
  q.nodeMeta.pairs.map (fun p => ("node-meta", p.1 ++ ":" ++ p.2)) ++
  optional "filter" q.filter

/-- The query of one cycle: the base with the index held and a wait in whole seconds. A base that
sets one of the two itself is refused. -/
def forCycle (base : Query) (index : Option Index) (waitSeconds : Nat) : Except Fault Query :=
  if base.index.isSome then .error (.reserved "index")
  else if base.wait.isSome then .error (.reserved "wait")
  else .ok { base with index, wait := some (Text.writeNatural waitSeconds ++ "s") }

end Query

end LongPoll
