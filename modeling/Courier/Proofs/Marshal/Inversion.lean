import Courier.Proofs.Marshal.Keeping

/-!
# Chains that take back what they did

A stage without a share in the state may replace a node by any other: a leaf by a whole
graph, a list by a leaf.  If it takes back on the way in whatever it did on the way out, it
is invertible.  Nothing is asked of how the stages of a chain go together.

A value that goes out through a chain of invertible stages comes back as it was
(`MarshalChain.ofPortable_toPortable`).  The graph that is walked is not the one that was
given but the one that the stages unfold, so the induction is on the allowance of the walk.
At every node the two reversals meet: the children have come back when their parent is
resolved, and the stages are taken back last to first (`MarshalChain.resolve_replace`).
-/

namespace Courier

set_option autoImplicit false

variable {σ : Type}

/-- A stage that knows nothing of the state, and reads back as the node it was given whatever it
wrote for it. -/
def Stage.Invertible (stage : Stage σ) : Prop :=
  ∃ write read, stage = Stage.ofFunctions write read ∧
    ∀ value node, write value = .ok node → read node = .ok value

theorem Stage.Invertible.read_of_write {stage : Stage σ} (invertible : stage.Invertible)
    {value node : Value} {state after : σ}
    (written : (stage.write value).run state = (.ok node, after)) (later : σ) :
    (stage.read node).run later = (.ok value, later) := by
  obtain ⟨write, read, rfl, inverse⟩ := invertible
  have wrote : write value = .ok node := congrArg Prod.fst written
  have back : read node = .ok value := inverse value node wrote
  exact congrArg (·, later) back

namespace MarshalChain

variable {chain : MarshalChain σ}

/-- Every stage of the chain is invertible by itself. -/
def Invertible (chain : MarshalChain σ) : Prop := ∀ stage ∈ chain.stages, stage.Invertible

/-! ## One node -/

theorem replace_cons (stage : Stage σ) (stages : List (Stage σ)) (value : Value) :
    replace ⟨stage :: stages⟩ value = stage.write value >>= replace ⟨stages⟩ :=
  List.foldlM_cons

theorem resolve_cons (stage : Stage σ) (stages : List (Stage σ)) (value : Value) :
    resolve ⟨stage :: stages⟩ value = resolve ⟨stages⟩ value >>= stage.read := by
  simp only [resolve, List.reverse_cons, List.foldlM_append, List.foldlM_cons, List.foldlM_nil,
    bind_pure]

/-- **What the stages make of a node, they make the node of again**: the last stage is taken back
first. -/
theorem resolve_replace (invertible : chain.Invertible) {value node : Value} {state after : σ}
    (replaced : (chain.replace value).run state = (.ok node, after)) (later : σ) :
    (chain.resolve node).run later = (.ok value, later) := by
  obtain ⟨stages⟩ := chain
  induction stages generalizing value state with
  | nil =>
    cases replaced
    rfl
  | cons stage stages ih =>
    rw [replace_cons] at replaced
    obtain ⟨middle, between, first, others⟩ := Marshal.ok_of_bind replaced
    have fewer : Invertible ⟨stages⟩ := by
      intro other listed
      exact invertible other (List.mem_cons_of_mem _ listed)
    have back : (resolve ⟨stages⟩ node).run later = (.ok middle, later) := ih fewer others
    rw [resolve_cons, Marshal.run_bind_of_ok back]
    exact (invertible stage (List.mem_cons_self ..)).read_of_write first later

/-! ## Graphs -/

/-- Items come back together if each of them does. -/
theorem ofPortableItems_mapM {write : Value → Marshal σ Portable}
    (each : ∀ item portable state after, (write item).run state = (.ok portable, after) →
      ∀ later, (chain.ofPortable portable).run later = (.ok item, later))
    {items : List Value} {portables : List Portable} {state after : σ}
    (written : (items.mapM write).run state = (.ok portables, after)) (later : σ) :
    (chain.ofPortableItems portables).run later = (.ok items, later) := by
  induction items generalizing portables state with
  | nil =>
    cases written
    rfl
  | cons item items ih =>
    rw [List.mapM_cons] at written
    obtain ⟨portable, between, first, written⟩ := Marshal.ok_of_bind written
    obtain ⟨rest, _, others, done⟩ := Marshal.ok_of_bind written
    cases done
    rw [ofPortableItems, Marshal.run_bind_of_ok (each _ _ _ _ first later),
      Marshal.run_bind_of_ok (ih others)]
    rfl

/-- Entries come back together, under their keys, if the value of each does. -/
theorem ofPortableEntries_mapM {write : Value → Marshal σ Portable}
    (each : ∀ item portable state after, (write item).run state = (.ok portable, after) →
      ∀ later, (chain.ofPortable portable).run later = (.ok item, later))
    {entries : List (String × Value)} {portables : List (String × Portable)} {state after : σ}
    (written : (entries.mapM fun entry : String × Value => do
      return (entry.1, ← write entry.2)).run state = (.ok portables, after)) (later : σ) :
    (chain.ofPortableEntries portables).run later = (.ok entries, later) := by
  induction entries generalizing portables state with
  | nil =>
    cases written
    rfl
  | cons entry entries ih =>
    rw [List.mapM_cons] at written
    obtain ⟨pair, between, first, written⟩ := Marshal.ok_of_bind written
    obtain ⟨portable, _, value, named⟩ := Marshal.ok_of_bind first
    obtain ⟨rest, _, others, done⟩ := Marshal.ok_of_bind written
    cases named
    cases done
    rw [ofPortableEntries, Marshal.run_bind_of_ok (each _ _ _ _ value later),
      Marshal.run_bind_of_ok (ih others)]
    rfl

/-- **What goes out through invertible stages comes back as it was.**  This holds with every
allowance, so with that of `toPortable`, which depends on the value. -/
theorem ofPortable_toPortable (invertible : chain.Invertible) {allowance : Nat} {value : Value}
    {portable : Portable} {state after : σ}
    (written : (chain.toPortableWithin allowance value).run state = (.ok portable, after))
    (later : σ) : (chain.ofPortable portable).run later = (.ok value, later) := by
  induction allowance generalizing value portable state after later with
  | zero => cases written
  | succ allowance ih =>
    obtain ⟨node, between, replaced, written⟩ := Marshal.ok_of_bind written
    have resolved := resolve_replace invertible replaced later
    have each : ∀ item portable state after,
        (chain.toPortableWithin allowance item).run state = (.ok portable, after) →
        ∀ later, (chain.ofPortable portable).run later = (.ok item, later) := by
      intro item portable state after written later
      exact ih written later
    cases node with
    | null | bool | int | float | str | bytes | remote =>
      cases written
      exact resolved
    | list items =>
      obtain ⟨portables, _, items, done⟩ := Marshal.ok_of_bind written
      cases done
      rw [ofPortable, Marshal.run_bind_of_ok (ofPortableItems_mapM each items later)]
      exact resolved
    | map entries =>
      obtain ⟨portables, _, entries, done⟩ := Marshal.ok_of_bind written
      cases done
      rw [ofPortable, Marshal.run_bind_of_ok (ofPortableEntries_mapM each entries later)]
      exact resolved
    | live object => cases written

/-! ## Two stages -/

/-- Spells a live object of the application out as a list, which begins with a mark.  The key is the
length of a list of its own. -/
def unfolding : Stage Unit :=
  .ofFunctions
    (fun
      | .live (.object name key) =>
        .ok (.list [.bool true, .str name, .list (.replicate key (.bool false))])
      | .list (.bool true :: _) => .error (.stage "the mark is taken")
      | value => .ok value)
    (fun
      | .list [.bool true, .str name, .list units] => .ok (.live (.object name units.length))
      | value => .ok value)

/-- Puts null in the place of an empty list. -/
def folding : Stage Unit :=
  .ofFunctions
    (fun
      | .list [] => .ok .null
      | .null => .error (.stage "null is taken")
      | value => .ok value)
    (fun
      | .null => .ok (.list [])
      | value => .ok value)

theorem unfolding_invertible : unfolding.Invertible := by
  refine ⟨_, _, rfl, ?_⟩
  intro value node written
  split at written
  · cases written
    simp
  · cases written
  · rename_i unmarked
    cases written
    split
    · exact absurd rfl (unmarked _)
    · rfl

theorem folding_invertible : folding.Invertible := by
  refine ⟨_, _, rfl, ?_⟩
  intro value node written
  split at written
  · cases written
    rfl
  · cases written
  · rename_i other
    cases written
    split
    · exact absurd rfl other
    · rfl

/-- A graph with a live object whose key is zero, and an empty list. -/
def graph : Value := .map [("x", .live (.object "Secret" 0)), ("y", .list [.list []])]

/-- A live object becomes a list whose own empty list becomes null, and both come back. -/
theorem ofPortable_toPortable_graph :
    ((⟨[unfolding, folding]⟩ : MarshalChain Unit).toPortable graph).run () =
        (.ok (.map [("x", .list [.bool true, .str "Secret", .null]), ("y", .list [.null])]), ()) ∧
      ((⟨[unfolding, folding]⟩ : MarshalChain Unit).ofPortable
        (.map [("x", .list [.bool true, .str "Secret", .null]), ("y", .list [.null])])).run () =
          (.ok graph, ()) := by
  have invertible : Invertible ⟨[unfolding, folding]⟩ := by
    simp [Invertible, unfolding_invertible, folding_invertible]
  have written : ((⟨[unfolding, folding]⟩ : MarshalChain Unit).toPortable graph).run () =
      (.ok (.map [("x", .list [.bool true, .str "Secret", .null]), ("y", .list [.null])]), ()) := rfl
  exact ⟨written, ofPortable_toPortable invertible written ()⟩

end MarshalChain

end Courier
