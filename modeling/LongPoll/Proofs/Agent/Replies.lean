import LongPoll.Agent.Resource
import LongPoll.Proofs.Json.Records

/-!
What an answer of the agent means, as rules.

An answer yields entries and an index if its status, its body and its headers all allow it; these
rules do not say in which order they are looked at. An answer that yields nothing has one fault, and
the rules for faults say which one it is where there are several to choose from: the status comes
before the body, and the body before the index. How the texts of JSON are read is not asked here.
-/

namespace LongPoll.Agent

open LongPoll.Text

/-! ### The index -/

/-- The first header with the name, in whatever case, has the value. -/
def FirstValue (name : String) (headers : List Header) (value : List UInt8) : Prop :=
  ∃ before given after, headers = before ++ (given, value) :: after ∧
    headerName given = headerName name ∧ ∀ h ∈ before, headerName h.1 ≠ headerName name

/-- No header has the name. -/
def Lacks (name : String) (headers : List Header) : Prop :=
  ∀ h ∈ headers, headerName h.1 ≠ headerName name

/-- The value has visible characters, spaces and tabs only, and they write the index. -/
structure Writes (value : List UInt8) (i : Index) : Prop where
  visible : ∀ b ∈ value, b = 0x09 ∨ 0x20 ≤ b ∧ b < 0x7F
  parsed : Index.parse (String.ofList (value.map fun b => Char.ofNat b.toNat)) = .ok i

theorem header?_eq_some_iff {name : String} {headers : List Header} {value : List UInt8} :
    header? name headers = some value ↔ FirstValue name headers value := by
  unfold header?
  constructor
  · intro hFound
    obtain ⟨⟨given, found⟩, hFind, rfl⟩ := Option.map_eq_some_iff.1 hFound
    obtain ⟨hSame, before, after, hHeaders, hBefore⟩ := List.find?_eq_some_iff_append.1 hFind
    exact ⟨before, given, after, hHeaders, by simpa using hSame, by simpa using hBefore⟩
  · rintro ⟨before, given, after, hHeaders, hSame, hBefore⟩
    refine Option.map_eq_some_iff.2 ⟨(given, value), ?_, rfl⟩
    exact List.find?_eq_some_iff_append.2
      ⟨by simpa using hSame, before, after, hHeaders, by simpa using hBefore⟩

theorem header?_eq_none_iff {name : String} {headers : List Header} :
    header? name headers = none ↔ Lacks name headers := by
  simp [header?, Lacks]

theorem text?_eq_some_iff {value : List UInt8} {text : String} :
    HeaderValue.text? value = some text ↔
      (∀ b ∈ value, b = 0x09 ∨ 0x20 ≤ b ∧ b < 0x7F) ∧
        String.ofList (value.map fun b => Char.ofNat b.toNat) = text := by
  have hVisible (b : UInt8) :
      HeaderValue.isVisible b = true ↔ b = 0x09 ∨ 0x20 ≤ b ∧ b < 0x7F := by
    simp [HeaderValue.isVisible, or_comm]
  simp [HeaderValue.text?, hVisible]

theorem writes_iff {value : List UInt8} {i : Index} :
    Writes value i ↔ ∃ text, HeaderValue.text? value = some text ∧ Index.parse text = .ok i := by
  constructor
  · exact fun hWrites => ⟨_, text?_eq_some_iff.2 ⟨hWrites.visible, rfl⟩, hWrites.parsed⟩
  · rintro ⟨text, hText, hParsed⟩
    obtain ⟨hVisible, rfl⟩ := text?_eq_some_iff.1 hText
    exact ⟨hVisible, hParsed⟩

theorem readIndex_eq_ok_iff {headers : List Header} {i : Index} :
    readIndex headers = .ok i ↔
      ∃ value, FirstValue indexHeader headers value ∧ Writes value i := by
  simp only [← header?_eq_some_iff, writes_iff]
  unfold readIndex
  cases header? indexHeader headers with
  | none => simp
  | some value =>
      cases hText : HeaderValue.text? value with
      | none => simp [hText]
      | some text => cases hParsed : Index.parse text <;> simp [hText, hParsed]

theorem readIndex_eq_error_iff {headers : List Header} {fault : FetchFault} :
    readIndex headers = .error fault ↔
      Lacks indexHeader headers ∧ fault = .noIndex ∨
        ∃ value, FirstValue indexHeader headers value ∧ (∀ i, ¬ Writes value i) ∧
          fault = .undecodable (.index value) := by
  simp only [← header?_eq_some_iff, ← header?_eq_none_iff, writes_iff]
  unfold readIndex
  cases header? indexHeader headers with
  | none => simp [eq_comm]
  | some value =>
      cases hText : HeaderValue.text? value with
      | none => simp [hText, eq_comm]
      | some text => cases hParsed : Index.parse text <;> simp [hText, hParsed, eq_comm]

/-! ### The entries -/

section

variable {V : Type} {read : Json → Option V}

/-- The bytes that count as white space. -/
def blankBytes : List UInt8 := [0x20, 0x09, 0x0A, 0x0C, 0x0D]

/-- The body has nothing but white space, null, or a list of these entries in this order. -/
inductive Lists (read : Json → Option V) (body : List UInt8) : List V → Prop where
  | blank (hBlank : ∀ b ∈ body, b ∈ blankBytes) : Lists read body []
  | null (hNull : Json.parse? body = some .null) : Lists read body []
  | array {items : List Json} {list : List V} (hArray : Json.parse? body = some (.array items))
      (hItems : List.Forall₂ (fun item entry => read item = some entry) items list) :
      Lists read body list

theorem isBlankByte_iff {b : UInt8} : isBlankByte b = true ↔ b ∈ blankBytes := by
  simp [isBlankByte, blankBytes, or_assoc]

/-- White space writes no value. The form feed is no white space between tokens, and without tokens
there is nothing to read. -/
theorem parse?_of_blank {body : List UInt8} (hBlank : ∀ b ∈ body, b ∈ blankBytes) :
    Json.parse? body = none := by
  have hStep (b : UInt8) (hMem : b ∈ blankBytes) :
      Json.Lexer.initial.step? b = none ∨ Json.Lexer.initial.step? b = some .initial := by
    simp only [blankBytes, List.mem_cons, List.not_mem_nil, or_false] at hMem
    rcases hMem with rfl | rfl | rfl | rfl | rfl <;> decide
  have hLexer : body.foldlM Json.Lexer.step? Json.Lexer.initial = none ∨
      body.foldlM Json.Lexer.step? Json.Lexer.initial = some .initial := by
    induction body with
    | nil => exact Or.inr rfl
    | cons b rest ih =>
        rw [List.foldlM_cons]
        rcases hStep b (hBlank b (List.mem_cons_self ..)) with hNone | hSame
        · exact Or.inl (by rw [hNone]; rfl)
        · rw [hSame]
          exact ih fun b hMem => hBlank b (List.mem_cons_of_mem _ hMem)
  rcases hLexer with hNone | hInitial
  · rw [Json.parse?, Json.lex?, hNone]
    rfl
  · rw [Json.parse?, Json.lex?, hInitial]
    rfl

theorem readEntries_eq_ok_iff {body : List UInt8} {list : List V} :
    readEntries read body = .ok list ↔ Lists read body list := by
  have hAll : body.all isBlankByte = true ↔ ∀ b ∈ body, b ∈ blankBytes := by
    simp only [List.all_eq_true, isBlankByte_iff]
  unfold readEntries
  split
  · next hBlank =>
      have hNone := parse?_of_blank (hAll.1 hBlank)
      constructor
      · rintro ⟨⟩
        exact .blank (hAll.1 hBlank)
      · rintro (_ | hNull | ⟨hArray, _⟩)
        · rfl
        · cases hNone.symm.trans hNull
        · cases hNone.symm.trans hArray
  · next hInk =>
      have hRead : (Json.parse? body).bind (Json.nullable? [] (Json.list? read)) = some list ↔
          Lists read body list := by
        constructor
        · intro hSome
          obtain ⟨j, hParse, hList⟩ := Option.bind_eq_some_iff.1 hSome
          cases j with
          | null =>
              cases hList
              exact .null hParse
          | array items => exact .array hParse (Json.mapM_eq_some_iff.1 hList)
          | _ => cases hList
        · rintro (hBlank | hNull | ⟨hArray, hItems⟩)
          · exact (hInk (hAll.2 hBlank)).elim
          · rw [hNull]
            rfl
          · rw [hArray]
            exact Json.mapM_eq_some_iff.2 hItems
      rw [← hRead]
      cases (Json.parse? body).bind (Json.nullable? [] (Json.list? read)) <;> simp

theorem readEntries_eq_error_iff {body : List UInt8} {fault : FetchFault} :
    readEntries read body = .error fault ↔ (∀ list, ¬ Lists read body list) ∧
      fault = .undecodable (.body "the body is not a list of such entries") := by
  simp only [← readEntries_eq_ok_iff]
  unfold readEntries
  split
  · simp
  · cases (Json.parse? body).bind (Json.nullable? [] (Json.list? read)) <;> simp [eq_comm]

end

/-! ### Answers -/

section

variable {V : Type} (read : Json → Option V) (lenient : Bool)

/-- The status says that all went well. -/
def Reply.Succeeds (r : Reply) : Prop := 200 ≤ r.status ∧ r.status < 300

/-- The answer has these entries: those of its body after a success, and none where nothing was
found and that is no fault. -/
inductive Reply.Holds (r : Reply) : List V → Prop where
  | missing (hStatus : r.status = 404) (hLenient : lenient = true) : r.Holds []
  | listed {list : List V} (hStatus : r.Succeeds) (hBody : Lists read r.body list) : r.Holds list

/-- The exchange yields these entries with this index. -/
inductive Yields : Delivery → List V → Index → Prop where
  | reply {r : Reply} {list : List V} {value : List UInt8} {i : Index}
      (hHolds : r.Holds read lenient list) (hValue : FirstValue indexHeader r.headers value)
      (hWrites : Writes value i) : Yields (some r) list i

/-- The exchange yields nothing, by this fault. -/
inductive Misses : Delivery → FetchFault → Prop where
  | transport : Misses none (.transport "no complete answer arrived")
  | status {r : Reply} (hStatus : ¬ r.Succeeds) (hFound : ¬ (r.status = 404 ∧ lenient = true)) :
      Misses (some r) (.status r.status r.bodyText)
  | body {r : Reply} (hStatus : r.Succeeds) (hBody : ∀ list, ¬ Lists read r.body list) :
      Misses (some r) (.undecodable (.body "the body is not a list of such entries"))
  | noIndex {r : Reply} {list : List V} (hHolds : r.Holds read lenient list)
      (hLacks : Lacks indexHeader r.headers) : Misses (some r) .noIndex
  | index {r : Reply} {list : List V} {value : List UInt8} (hHolds : r.Holds read lenient list)
      (hValue : FirstValue indexHeader r.headers value) (hWrites : ∀ i, ¬ Writes value i) :
      Misses (some r) (.undecodable (.index value))

variable {read lenient}

theorem isSuccess_iff {r : Reply} : r.isSuccess = true ↔ r.Succeeds := by
  simp [Reply.isSuccess, Reply.Succeeds]

theorem Reply.Succeeds.found {r : Reply} (h : r.Succeeds) :
    ¬ (r.status = 404 ∧ lenient = true) := by
  rintro ⟨hStatus, _⟩
  rw [Reply.Succeeds, hStatus] at h
  omega

theorem entries_eq_ok_iff {r : Reply} {list : List V} :
    r.entries read lenient = .ok list ↔ r.Holds read lenient list := by
  unfold Reply.entries
  split
  · next hMissing =>
      constructor
      · rintro ⟨⟩
        exact .missing hMissing.1 hMissing.2
      · rintro (_ | ⟨hStatus, _⟩)
        · rfl
        · exact (hStatus.found hMissing).elim
  · next hFound =>
      split
      · next hStatus =>
          rw [readEntries_eq_ok_iff]
          constructor
          · exact .listed (isSuccess_iff.1 hStatus)
          · rintro (⟨hMissing, hLenient⟩ | ⟨_, hBody⟩)
            · exact (hFound ⟨hMissing, hLenient⟩).elim
            · exact hBody
      · next hStatus =>
          refine iff_of_false nofun ?_
          rintro (⟨hMissing, hLenient⟩ | ⟨hSuccess, _⟩)
          · exact hFound ⟨hMissing, hLenient⟩
          · exact hStatus (isSuccess_iff.2 hSuccess)

theorem entries_eq_error_iff {r : Reply} {fault : FetchFault} :
    r.entries read lenient = .error fault ↔
      ¬ r.Succeeds ∧ ¬ (r.status = 404 ∧ lenient = true) ∧ fault = .status r.status r.bodyText ∨
        r.Succeeds ∧ (∀ list, ¬ Lists read r.body list) ∧
          fault = .undecodable (.body "the body is not a list of such entries") := by
  unfold Reply.entries
  split
  · next hMissing =>
      refine iff_of_false nofun ?_
      rintro (⟨_, hFound, _⟩ | ⟨hSuccess, _⟩)
      · exact hFound hMissing
      · exact hSuccess.found hMissing
  · next hFound =>
      split
      · next hStatus =>
          have hSuccess := isSuccess_iff.1 hStatus
          rw [readEntries_eq_error_iff]
          exact ⟨fun h => Or.inr ⟨hSuccess, h⟩, fun h => (h.resolve_left (·.1 hSuccess)).2⟩
      · next hStatus =>
          have hRefused : ¬ r.Succeeds := fun hSuccess => hStatus (isSuccess_iff.2 hSuccess)
          simp [hRefused, hFound, eq_comm]

theorem read_eq_ok_iff {r : Reply} {list : List V} {i : Index} :
    r.read read lenient = .ok (list, i) ↔
      r.entries read lenient = .ok list ∧ readIndex r.headers = .ok i := by
  unfold Reply.read
  cases r.entries read lenient <;> cases readIndex r.headers <;>
    simp [bind, Except.bind, pure, Except.pure]

theorem read_eq_error_iff {r : Reply} {fault : FetchFault} :
    r.read read lenient = .error fault ↔ r.entries read lenient = .error fault ∨
      ∃ list, r.entries read lenient = .ok list ∧ readIndex r.headers = .error fault := by
  unfold Reply.read
  cases r.entries read lenient <;> cases readIndex r.headers <;>
    simp [bind, Except.bind, pure, Except.pure]

/-- What is received is what the exchange yields by the rules. -/
theorem receive_eq_ok_iff {delivery : Delivery} {list : List V} {i : Index} :
    receive read lenient delivery = .ok (list, i) ↔ Yields read lenient delivery list i := by
  cases delivery with
  | none => exact iff_of_false nofun nofun
  | some r =>
      rw [receive, read_eq_ok_iff, entries_eq_ok_iff, readIndex_eq_ok_iff]
      constructor
      · rintro ⟨hHolds, value, hValue, hWrites⟩
        exact .reply hHolds hValue hWrites
      · rintro ⟨hHolds, hValue, hWrites⟩
        exact ⟨hHolds, _, hValue, hWrites⟩

/-- Where nothing is received the fault is the one that the rules choose. -/
theorem receive_eq_error_iff {delivery : Delivery} {fault : FetchFault} :
    receive read lenient delivery = .error fault ↔ Misses read lenient delivery fault := by
  cases delivery with
  | none =>
      constructor
      · rintro ⟨⟩
        exact .transport
      · rintro ⟨⟩
        rfl
  | some r =>
      rw [receive, read_eq_error_iff]
      simp only [entries_eq_error_iff, entries_eq_ok_iff, readIndex_eq_error_iff]
      constructor
      · rintro ((⟨hStatus, hFound, rfl⟩ | ⟨hStatus, hBody, rfl⟩) |
          ⟨list, hHolds, ⟨hLacks, rfl⟩ | ⟨value, hValue, hWrites, rfl⟩⟩)
        · exact .status hStatus hFound
        · exact .body hStatus hBody
        · exact .noIndex hHolds hLacks
        · exact .index hHolds hValue hWrites
      · rintro (_ | ⟨hStatus, hFound⟩ | ⟨hStatus, hBody⟩ | ⟨hHolds, hLacks⟩ |
          ⟨hHolds, hValue, hWrites⟩)
        · exact Or.inl (Or.inl ⟨hStatus, hFound, rfl⟩)
        · exact Or.inl (Or.inr ⟨hStatus, hBody, rfl⟩)
        · exact Or.inr ⟨_, hHolds, Or.inl ⟨hLacks, rfl⟩⟩
        · exact Or.inr ⟨_, hHolds, Or.inr ⟨_, hValue, hWrites, rfl⟩⟩

end

end LongPoll.Agent
