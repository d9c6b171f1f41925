import LongPoll.Proofs.Index

/-!
What the parameters of a query say.

A server finds the fields of a query by the names of the parameters, and splits a demand on nodes at
its first colon. Main statement: unless the name of a demand has a colon itself, it finds all that
the query says but the token, so queries have the same parameters exactly if they differ in nothing
else.
-/

namespace LongPoll

namespace NodeMeta

theorem ext {m m' : NodeMeta} (h : m.pairs = m'.pairs) : m = m' := by
  cases m
  cases m'
  cases h
  rfl

/-- A name behind all others is put at the end. -/
theorem insertPair_of_lt {name value : String} {pairs : List (String × String)}
    (h : ∀ p ∈ pairs, p.1 < name) : insertPair name value pairs = pairs ++ [(name, value)] := by
  induction pairs with
  | nil => rfl
  | cons p rest ih =>
      have hFirst : p.1 < name := h p (List.mem_cons_self ..)
      have hNotBefore : ¬name < p.1 := String.lt_asymm hFirst
      have hOther : name ≠ p.1 := fun hSame => String.lt_irrefl name (hSame ▸ hFirst)
      rw [insertPair, if_neg hNotBefore, if_neg hOther,
        ih fun q hq => h q (List.mem_cons_of_mem _ hq), List.cons_append]

theorem pairs_foldl_insert {m : NodeMeta} {pairs : List (String × String)}
    (h : (m.pairs ++ pairs).Pairwise fun a b => a.1 < b.1) :
    (pairs.foldl (fun m p => m.insert p.1 p.2) m).pairs = m.pairs ++ pairs := by
  induction pairs generalizing m with
  | nil => simp
  | cons p rest ih =>
      have hLast : ∀ q ∈ m.pairs, q.1 < p.1 := fun q hq =>
        (List.pairwise_append.1 h).2.2 q hq p (List.mem_cons_self ..)
      have hNext : (m.insert p.1 p.2).pairs = m.pairs ++ [p] := insertPair_of_lt hLast
      rw [List.foldl_cons, ih, hNext, List.append_assoc, List.singleton_append]
      rw [hNext, List.append_assoc, List.singleton_append]
      exact h

/-- The demands are given by the list of them. -/
theorem ofList_pairs (m : NodeMeta) : ofList m.pairs = m :=
  ext (pairs_foldl_insert (m := empty) m.sorted)

end NodeMeta

namespace Query

open LongPoll.Json (valuesOf)

variable {name : String}

/-! ### The values of one name -/

@[simp] theorem valuesOf_map (other : String) (values : List String) :
    valuesOf name (values.map (other, ·)) = if other = name then values else [] := by
  by_cases h : other = name <;> simp [valuesOf, h, List.filterMap_map]

@[simp] theorem valuesOf_optional (other : String) (value : Option String) :
    valuesOf name (optional other value) = if other = name then value.toList else [] :=
  valuesOf_map other value.toList

/-! ### Demands on nodes -/

/-- How a demand is written. -/
def demandText (p : String × String) : String := p.1 ++ ":" ++ p.2

/-- What a demand names, and the value for it: the text before the first colon and the text
after. -/
def readDemand (text : String) : String × String :=
  (String.ofList (text.toList.takeWhile (· != ':')),
    String.ofList ((text.toList.dropWhile (· != ':')).drop 1))

theorem readDemand_demandText {p : String × String} (h : ':' ∉ p.1.toList) :
    readDemand (demandText p) = p := by
  have hPlain : ∀ c ∈ p.1.toList, (c != ':') = true := by
    rintro c hc
    exact bne_iff_ne.2 (ne_of_mem_of_not_mem hc h)
  have hText : (demandText p).toList = p.1.toList ++ ':' :: p.2.toList := by
    simp [demandText]
  simp only [readDemand, hText, List.takeWhile_append_of_pos hPlain,
    List.dropWhile_append_of_pos hPlain]
  simp

/-! ### Reading parameters -/

/-- The query that parameters say. They do not say a token. -/
def ofParameters (ps : List (String × String)) : Query where
  index := (valuesOf "index" ps).head?.bind fun text => (Index.parse text).toOption
  wait := (valuesOf "wait" ps).head?
  consistency :=
    if valuesOf "consistent" ps ≠ [] then .consistent
    else if valuesOf "stale" ps ≠ [] then .stale
    else .default
  token := none
  near := (valuesOf "near" ps).head?
  datacenter := (valuesOf "dc" ps).head?
  tags := valuesOf "tag" ps
  nodeMeta := .ofList ((valuesOf "node-meta" ps).map readDemand)
  filter := (valuesOf "filter" ps).head?

/-- No name of a demand has a colon. -/
def IsLegible (q : Query) : Prop := ∀ p ∈ q.nodeMeta.pairs, ':' ∉ p.1.toList

theorem map_readDemand {m : NodeMeta} (h : ∀ p ∈ m.pairs, ':' ∉ p.1.toList) :
    (m.pairs.map demandText).map readDemand = m.pairs := by
  have hEach : ∀ p ∈ m.pairs, (readDemand ∘ demandText) p = id p :=
    fun p hp => readDemand_demandText (h p hp)
  rw [List.map_map, List.map_congr_left hEach, List.map_id]

theorem parameters_eq (q : Query) :
    q.parameters =
      optional "index" (q.index.map Index.text) ++ optional "wait" q.wait ++
      consistencyFlag q.consistency ++ optional "near" q.near ++ optional "dc" q.datacenter ++
      q.tags.map ("tag", ·) ++ (q.nodeMeta.pairs.map demandText).map ("node-meta", ·) ++
      optional "filter" q.filter := by
  simp [parameters, demandText, Function.comp_def]

theorem bind_parse_text (index : Option Index) :
    ((index.map Index.text).bind fun text => (Index.parse text).toOption) = index := by
  cases index with
  | none => rfl
  | some i => simp [Index.parse_text, Except.toOption]

/-- The fields are found again, one by one. -/
theorem ofParameters_parameters {q : Query} (h : q.IsLegible) :
    ofParameters q.parameters = { q with token := none } := by
  have hDemands := map_readDemand h
  rw [parameters_eq]
  rcases q with ⟨index, wait, consistency, token, near, datacenter, tags, nodeMeta, filter⟩
  cases consistency <;>
    simp [ofParameters, consistencyFlag, bind_parse_text, -List.map_map, hDemands,
      NodeMeta.ofList_pairs]

variable {q q' : Query}

/-- What the parameters of a query say. From their names, their values and their order each field of
the query is found again but the token, of which they say nothing. So two queries have the same
parameters exactly if they differ in their tokens at most; a field that is not set, an empty text
and a list without members are three different things. -/
theorem parameters_say_all_but_token (h : q.IsLegible) (h' : q'.IsLegible) :
    ofParameters q.parameters = { q with token := none } ∧
      (q.parameters = q'.parameters ↔ { q with token := none } = { q' with token := none }) ∧
      ∀ (r : Query) token, { r with token := token }.parameters = r.parameters := by
  have hToken : ∀ (r : Query) token, { r with token := token }.parameters = r.parameters :=
    fun r token => rfl
  refine ⟨ofParameters_parameters h, ⟨fun hSame => ?_, fun hSame => ?_⟩, hToken⟩
  · rw [← ofParameters_parameters h, ← ofParameters_parameters h', hSame]
  · rw [← hToken q none, ← hToken q' none, hSame]

/-- Empty texts where nothing might be, a tag twice, and colons in a value. -/
theorem parameters_say_all_but_token_of_empty_texts :
    let q : Query := { blank with
      index := some ⟨0⟩, wait := some "", token := some "secret", near := some "",
      tags := ["", "a", "a"], nodeMeta := .ofList [("rack", "r:1"), ("", ":")] }
    ofParameters q.parameters = { q with token := none } ∧
      q.parameters ≠ { q with near := none, datacenter := some "" }.parameters := by
  intro q
  have hLegible : q.IsLegible := by
    unfold IsLegible
    decide +kernel
  have hOther : { q with near := none, datacenter := some "" }.IsLegible := hLegible
  obtain ⟨hAgain, hSame, _⟩ := parameters_say_all_but_token hLegible hOther
  exact ⟨hAgain, fun hParameters => nomatch congrArg Query.near (hSame.1 hParameters)⟩

/-- A colon in a name cannot be told from the one behind it. -/
example :
    { blank with nodeMeta := .ofList [("a:b", "c")] }.parameters =
      { blank with nodeMeta := .ofList [("a", "b:c")] }.parameters := by
  decide +kernel

end Query

end LongPoll
