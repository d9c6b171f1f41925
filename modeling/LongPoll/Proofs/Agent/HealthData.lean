import LongPoll.Agent.Resource
import LongPoll.Proofs.Snapshot

/-!
What a watch of health data keeps.

Checks are told apart by their identifiers, and instances by service, host and port. Neither key
names the node. So an entry can be left out although its node has nothing else of this name: an
earlier entry from another node has its key. Nothing else is left out, and the log hears of every
entry that is.
-/

namespace LongPoll

namespace Agent

open Health

section

variable {K V : Type} [DecidableEq K] [DecidableEq V] (r : Resource K V)
  (settings : Settings) (base : Query) (consumer : Nat → Reaction) {entries : List V}

/-- Of different entries the first with each key is kept, and each of the others is a repeated
key. -/
theorem build_resource (hNodup : entries.Nodup) :
    ∃ s, Snapshot.build (r.feed settings base consumer).keyOf entries =
        ⟨(entries.filter fun v => s.get? (r.keyOf v) ≠ some v).map r.keyOf, .ok s⟩ ∧
      ∀ k, s.get? k = entries.find? fun v => r.keyOf v = k := by
  obtain ⟨s, hBuild, hGet⟩ := Snapshot.build_total r.keyOf entries
  refine ⟨s, hBuild.trans ?_, hGet⟩
  simp only [Snapshot.repeats_eq_filter r.keyOf hNodup, hGet]

/-- Where the node and a part of the key tell all entries apart, an entry is missing exactly if an
earlier one, from another node, has its key. -/
theorem build_nodes (node : V → String) (part : K → String)
    (hOnce : (entries.map fun v => (node v, part (r.keyOf v))).Nodup) :
    ∃ s, Snapshot.build (r.feed settings base consumer).keyOf entries =
        ⟨(entries.filter fun v => s.get? (r.keyOf v) ≠ some v).map r.keyOf, .ok s⟩ ∧
      ∀ before v after, entries = before ++ v :: after →
        ((∃ k, s.get? k = some v) ↔ ¬ ∃ w ∈ before, node w ≠ node v ∧ r.keyOf w = r.keyOf v) := by
  obtain ⟨s, hBuild, hGet⟩ := build_resource r settings base consumer hOnce.of_map
  refine ⟨s, hBuild, fun before v after hSplit => ?_⟩
  have hApart : ∀ w ∈ before, r.keyOf w = r.keyOf v → node w ≠ node v := by
    intro w hw hKey hNode
    rw [hSplit, List.map_append, List.map_cons, List.nodup_append] at hOnce
    refine hOnce.2.2 _ (List.mem_map_of_mem hw) _ (List.mem_cons_self ..) ?_
    rw [hKey, hNode]
  constructor
  · rintro ⟨k, hFound⟩ ⟨w, hw, _, hKey⟩
    rw [hGet, hSplit, List.find?_append] at hFound
    -- The entry found stands in front, where the entry itself cannot be.
    obtain ⟨x, hFirst⟩ : ∃ x, (before.find? fun x => r.keyOf x = k) = some x := by
      refine Option.isSome_iff_exists.1 (List.find?_isSome.2 ⟨w, hw, ?_⟩)
      have hOwn : r.keyOf v = k := by
        rw [← List.find?_append, ← hSplit] at hFound
        simpa using List.find?_some hFound
      simp [hKey, hOwn]
    rw [hFirst, Option.some_or, Option.some.injEq] at hFound
    have hMember : v ∈ before := hFound ▸ List.mem_of_find?_eq_some hFirst
    exact hApart v hMember rfl rfl
  · intro hNone
    refine ⟨r.keyOf v, ?_⟩
    have hFront : (before.find? fun w => r.keyOf w = r.keyOf v) = none := by
      refine List.find?_eq_none.2 fun w hw hKey => hNone ⟨w, hw, ?_⟩
      have hSame : r.keyOf w = r.keyOf v := by simpa using hKey
      exact ⟨hApart w hw hSame, hSame⟩
    rw [hGet, hSplit, List.find?_append, hFront, Option.none_or,
      List.find?_cons_of_pos (by simp)]

end

/-- Of checks of which no two have one node and one identifier, a watch by state keeps those whose
identifier no earlier check from another node has. Of instances of which no two have one node and
one service identifier, a watch of a service keeps those whose service identifier, host and port no
earlier instance from another node has. All others are reported as repeated, in order. -/
theorem health_data_kept_unless_taken (settings : Settings) (base : Query)
    (consumer : Nat → Reaction) :
    (∀ (state : State) (list : List Check), (list.map fun c => (c.node, c.checkId)).Nodup →
      ∃ s, Snapshot.build ((stateChecks state).feed settings base consumer).keyOf list =
          ⟨(list.filter fun c => s.get? c.checkId ≠ some c).map Check.checkId, .ok s⟩ ∧
        ∀ before c after, list = before ++ c :: after →
          ((∃ k, s.get? k = some c) ↔
            ¬ ∃ b ∈ before, b.node ≠ c.node ∧ b.checkId = c.checkId)) ∧
      ∀ (service : String) (passing : Bool) (list : List Instance),
        (list.map fun i => (i.node.name, i.service.id)).Nodup →
        ∃ s, Snapshot.build ((instances service passing).feed settings base consumer).keyOf list =
            ⟨(list.filter fun i => s.get? i.key ≠ some i).map Instance.key, .ok s⟩ ∧
          ∀ before i after, list = before ++ i :: after →
            ((∃ k, s.get? k = some i) ↔
              ¬ ∃ b ∈ before, b.node.name ≠ i.node.name ∧ b.service.id = i.service.id ∧
                b.host = i.host ∧ b.service.port = i.service.port) := by
  constructor
  · intro state list hOnce
    exact build_nodes (stateChecks state) settings base consumer Check.node id hOnce
  · intro service passing list hOnce
    obtain ⟨s, hBuild, hKept⟩ := build_nodes (instances service passing) settings base consumer
      (fun i => i.node.name) InstanceKey.serviceId hOnce
    refine ⟨s, hBuild, fun before i after hSplit => (hKept before i after hSplit).trans ?_⟩
    have hKey (b : Instance) : (instances service passing).keyOf b = b.key := rfl
    simp only [hKey, Instance.key, InstanceKey.mk.injEq]

/-- What the agent reports about itself has the same identifier on every node. -/
def agentCheck (node : String) : Check :=
  ⟨node, "serfHealth", "Serf Health Status", "passing", "", "Agent alive and reachable", "", "", []⟩

/-- An instance behind an address that it shares. -/
def sharedInstance (node : String) : Instance :=
  ⟨⟨node, "10.0.0.1", none⟩, ⟨"web", "web", [], "10.0.9.9", 80⟩, []⟩

/-- One check is lost, since another node has one with its identifier, and one is kept. -/
theorem health_data_kept_unless_taken_of_agents :
    let list := [agentCheck "n1", agentCheck "n2", { agentCheck "n2" with checkId := "mem" }]
    let feed := (stateChecks .pass).feed .default .blank (fun _ => .idle)
    (list.map fun c => (c.node, c.checkId)).Nodup ∧
      ∃ s, (Snapshot.build feed.keyOf list).outcome = .ok s ∧
        (∀ k, s.get? k ≠ some (agentCheck "n2")) ∧
        ∃ k, s.get? k = some { agentCheck "n2" with checkId := "mem" } := by
  intro list feed
  have hOnce : (list.map fun c => (c.node, c.checkId)).Nodup := by decide
  obtain ⟨s, hBuild, hKept⟩ :=
    (health_data_kept_unless_taken .default .blank fun _ => .idle).1 .pass list hOnce
  refine ⟨hOnce, s, by rw [hBuild], ?_, ?_⟩
  · refine not_exists.1 ((hKept [agentCheck "n1"] (agentCheck "n2") _ rfl).not.2 ?_)
    decide
  · rw [hKept [agentCheck "n1", agentCheck "n2"] _ [] rfl]
    decide

/-- Two nodes have a check each, and the watch keeps one. Two nodes have an instance each, and the
watch keeps one. -/
theorem second_node_is_lost :
    let checks := ["n1", "n2"].map agentCheck
    let services := ["n1", "n2"].map sharedInstance
    ((checks.map fun c => (c.node, c.checkId)).Nodup ∧
        ∃ s, Snapshot.build ((stateChecks .pass).feed .default .blank fun _ => .idle).keyOf checks =
            ⟨["serfHealth"], .ok s⟩ ∧
          ∀ k, s.get? k ≠ some (agentCheck "n2")) ∧
      (services.map fun i => (i.node.name, i.service.id)).Nodup ∧
        ∃ s, Snapshot.build ((instances "web" false).feed .default .blank fun _ => .idle).keyOf
            services = ⟨[⟨"web", "10.0.9.9", 80⟩], .ok s⟩ ∧
          ∀ k, s.get? k ≠ some (sharedInstance "n2") := by
  intro checks services
  constructor
  · refine ⟨by decide, ⟨[("serfHealth", agentCheck "n1")], by decide⟩, by rfl, fun k hFound => ?_⟩
    have hMember := Snapshot.get?_eq_some_iff.1 hFound
    simp [agentCheck] at hMember
  · refine ⟨by decide, ⟨[(⟨"web", "10.0.9.9", 80⟩, sharedInstance "n1")], by decide⟩, by rfl,
      fun k hFound => ?_⟩
    have hMember := Snapshot.get?_eq_some_iff.1 hFound
    simp [sharedInstance] at hMember

end Agent

end LongPoll
