/-!
# Depth-first search

From some nodes that wait to be visited, everything that can be reached by a successor function is
listed in the order of a depth-first walk: a node is listed when it is first met, and its
successors are walked before the nodes that were already waiting. Successors may be computed in any
monad, so a walk along links whose conditions cannot be judged fails where it meets them.

## Main definitions

* `explore` — the nodes met by a depth-first walk, in order

## Main results

* `explore_pure` — with successors that have no effect, neither has the walk
-/

namespace Skein

variable {m : Type → Type} [Monad m] {α : Type} [DecidableEq α]

/-- The nodes met by a depth-first walk from the nodes of `pending`, where only the nodes of
`fresh` have not been met before. -/
def explore (next : α → m (List α)) (pending fresh : List α) : m (List α) :=
  match pending with
  | [] => pure []
  | node :: rest =>
    if node ∈ fresh then do
      let successors ← next node
      let found ← explore next (successors ++ rest) (fresh.erase node)
      return node :: found
    else explore next rest fresh
termination_by (fresh.length, pending.length)
decreasing_by
  · next hfresh =>
    apply Prod.Lex.left
    have := List.length_pos_of_mem hfresh
    rw [List.length_erase_of_mem hfresh]
    omega
  · exact Prod.Lex.right _ (Nat.lt_succ_self _)

@[simp] theorem explore_nil (next : α → m (List α)) (fresh : List α) :
    explore next [] fresh = pure [] := by
  rw [explore]

theorem explore_cons_of_mem {next : α → m (List α)} {node : α} {rest fresh : List α}
    (h : node ∈ fresh) :
    explore next (node :: rest) fresh = (do
      let successors ← next node
      let found ← explore next (successors ++ rest) (fresh.erase node)
      return node :: found) := by
  rw [explore, if_pos h]

theorem explore_cons_of_not_mem {next : α → m (List α)} {node : α} {rest fresh : List α}
    (h : node ∉ fresh) : explore next (node :: rest) fresh = explore next rest fresh := by
  rw [explore, if_neg h]

/-- With successors that have no effect, neither has the walk. -/
theorem explore_pure [LawfulMonad m] (next : α → List α) (pending fresh : List α) :
    explore (fun a => (pure (next a) : m (List α))) pending fresh =
      pure (explore (m := Id) (fun a => pure (next a)) pending fresh).run := by
  induction hn : fresh.length using Nat.strongRecOn generalizing pending fresh with
  | ind n ihfresh =>
    induction pending with
    | nil => simp
    | cons node rest ih =>
      by_cases h : node ∈ fresh
      · have hlt : (fresh.erase node).length < n := by
          have := List.length_pos_of_mem h
          rw [List.length_erase_of_mem h]
          omega
        simp only [explore_cons_of_mem h, pure_bind, ihfresh _ hlt _ _ rfl]
        rfl
      · simp only [explore_cons_of_not_mem h, ih]

end Skein
