import LongPoll.Proofs.Agent.Replies
import LongPoll.Proofs.Cache.Complaints

/-!
Exchanges with the agent, and what they make of a cache.

An exchange that yields entries is a response to the cache. Any other is a failed cycle: it is
counted and reported with the fault that the rules choose, and readers and listeners cannot tell
that there was an exchange at all.
-/

namespace LongPoll.Agent

variable {K V : Type} {resource : Resource K V} {delivery : Delivery}

theorem answer_eq_entries_iff {list : List V} {i : Index} :
    resource.answer delivery = .entries list i ↔
      Yields resource.read resource.lenient delivery list i := by
  rw [← receive_eq_ok_iff, Resource.answer]
  cases receive resource.read resource.lenient delivery <;> simp [Prod.ext_iff]

theorem answer_eq_failed_iff {fault : FetchFault} :
    resource.answer delivery = .failed fault ↔
      Misses resource.read resource.lenient delivery fault := by
  rw [← receive_eq_error_iff, Resource.answer]
  cases receive resource.read resource.lenient delivery <;> simp

/-- There is no exchange that the rules are silent about. -/
theorem yields_or_misses (resource : Resource K V) (delivery : Delivery) :
    (∃ list i, Yields resource.read resource.lenient delivery list i) ∨
      ∃ fault, Misses resource.read resource.lenient delivery fault := by
  cases hAnswer : receive resource.read resource.lenient delivery with
  | ok taken => exact Or.inl ⟨taken.1, taken.2, receive_eq_ok_iff.1 hAnswer⟩
  | error fault => exact Or.inr ⟨fault, receive_eq_error_iff.1 hAnswer⟩

variable [DecidableEq K] [DecidableEq V]

/-- An error of the source that comes in time is counted and reported. -/
theorem failed_counted {feed : Feed K V} {c : Cache K V} (hAwaits : c.awaits = true)
    (fault : FetchFault) :
    let d := c.happen feed (.answer [] (.failed fault))
    d.core.stats = { c.core.stats with failed := c.core.stats.failed + 1 } ∧
      .ofFailure feed.settings.errorLog (Cache.failureMessage feed) (.fetch fault) ::
        c.core.events <:+ d.core.events := by
  rcases Cache.answer_cases feed [] (.failed fault) c with ⟨_, cycle, limit, _, hReceive⟩ |
    ⟨hMissed, _⟩
  · simp only [Cache.happen, hReceive]
    exact Cache.fail_counted feed cycle (.fetch fault) c
  · cases hMissed.symm.trans hAwaits

/-- The answers of an agent by the rules, in every run of a cache of a resource. An exchange yields
entries and an index exactly if the rules say so, otherwise it has the fault that they choose, and
only the subtrees of the store are lenient about what is not found. Where the cache awaits an
answer, an exchange that yields is its response, and one that does not is counted and reported with
its fault. However many exchanges fail, with whatever time and turns between them, the snapshot, the
index that is held, and what was published and heard stay as they are; and so do the life of the
cache and its audience, unless the callback for failed cycles acts on them by itself. -/
theorem missed_exchanges_change_nothing (resource : Resource K V) (settings : Settings)
    (base : Query) (consumer : Nat → Reaction) (run : List (Happening V)) :
    let feed := resource.feed settings base consumer
    let c := (Cache.initial : Cache K V).replay feed run
    (∀ delivery,
      (∀ list i, resource.answer delivery = .entries list i ↔
        Yields resource.read resource.lenient delivery list i) ∧
      (∀ fault, resource.answer delivery = .failed fault ↔
        Misses resource.read resource.lenient delivery fault) ∧
      ((∃ list i, Yields resource.read resource.lenient delivery list i) ∨
        ∃ fault, Misses resource.read resource.lenient delivery fault)) ∧
    ((∀ root, (subtree root).lenient = true) ∧ (∀ kind name, (checks kind name).lenient = false) ∧
      ∀ service passing, (instances service passing).lenient = false) ∧
    (c.awaits = true → ∀ delivery,
      (∀ list i, Yields resource.read resource.lenient delivery list i →
        c.response? (.answer [] (resource.answer delivery)) = some ⟨list, i⟩) ∧
      ∀ fault, Misses resource.read resource.lenient delivery fault →
        let d := c.happen feed (.answer [] (resource.answer delivery))
        d.core.stats = { c.core.stats with failed := c.core.stats.failed + 1 } ∧
          .ofFailure settings.errorLog (Cache.failureMessage feed) (.fetch fault) ::
            c.core.events <:+ d.core.events) ∧
    ∀ exchanges : List (Happening V),
      (∀ happening ∈ exchanges, happening = .turn ∨ (∃ nanos, happening = .elapse nanos) ∨
        ∃ delivery fault, happening = .answer [] (resource.answer delivery) ∧
          Misses resource.read resource.lenient delivery fault) →
      let d := c.replay feed exchanges
      d.core.current = c.core.current ∧ d.cursor = c.cursor ∧
        d.core.published = c.core.published ∧ (∀ id, d.core.heard id = c.core.heard id) ∧
        ∃ acts : List Act,
          (∀ act ∈ acts, settings.errorLog = .custom ∧ ∃ n, act ∈ (consumer n).acts) ∧
          d.core.lifecycle = (c.acted feed acts).core.lifecycle ∧
          d.shared.audience = (c.acted feed acts).shared.audience := by
  intro feed c
  refine ⟨fun delivery => ⟨fun _ _ => answer_eq_entries_iff, fun _ => answer_eq_failed_iff,
    yields_or_misses resource delivery⟩, ⟨fun _ => rfl, fun _ _ => rfl, fun _ _ => rfl⟩,
    fun hAwaits delivery => ⟨fun list i hYields => ?_, fun fault hMisses => ?_⟩,
    fun exchanges hExchanges => ?_⟩
  · rw [answer_eq_entries_iff.2 hYields]
    exact Cache.response?_of_awaits hAwaits [] list i
  · rw [answer_eq_failed_iff.2 hMisses]
    exact failed_counted hAwaits fault
  · have hComplains : Cache.Complains feed c (c.replay feed exchanges) := by
      refine .replay exchanges (.refl c) fun happening hMem => ?_
      rcases hExchanges happening hMem with rfl | ⟨nanos, rfl⟩ | ⟨delivery, fault, rfl, hMisses⟩
      · exact .turn
      · exact .elapse nanos
      · rw [answer_eq_failed_iff.2 hMisses]
        exact .failed fault
    exact hComplains.spares

/-- A refusal, a body that is no list, and an answer without an index, each with faults that come
later in the order; and a subtree that is not there. -/
example :
    let receive (status : Nat) (headers : List Header) (body : List UInt8) :=
      receive Kv.Entry.ofJson? true (some ⟨status, headers, body⟩)
    let seven : Header := ("x-consul-index", [0x37])
    receive 500 [] [0x7B] = .error (.status 500 "\x7b") ∧
      receive 200 [(indexHeader, [0xFF])] [0x7B] =
        .error (.undecodable (.body "the body is not a list of such entries")) ∧
      receive 200 [] [0x5B, 0x5D] = .error .noIndex ∧
      receive 404 [seven, (indexHeader, [0xFF])] [0x7B] = .ok ([], ⟨7⟩) := by
  decide +kernel

end LongPoll.Agent
