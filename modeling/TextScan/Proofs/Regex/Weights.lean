/-
# Weights only grow

Whatever makes states adds them to those that are there (`Bulk.Grows`); so do all parts of an
expression (`Expr.grows_branchStates`).  Once states take too many bytes, nothing changes that.  So
the copies of a part that are left out when the states are too large make no difference: they are
too large exactly if all copies are (`Expr.isTooLarge_copies`).
-/

import TextScan.Regex.Weight

namespace TextScan
namespace Regex

/-- What no step of a fold makes smaller is not smaller at its end. -/
theorem le_foldl {α β : Type} {g : β → α → β} (m : β → Nat) {l : List α}
    (h : ∀ a ∈ l, ∀ b, m b ≤ m (g b a)) (b : β) : m b ≤ m (l.foldl g b) := by
  induction l generalizing b with
  | nil => exact Nat.le_refl _
  | cons a l ih =>
    exact Nat.le_trans (h a List.mem_cons_self b)
      (ih (fun c hc => h c (List.mem_cons_of_mem a hc)) (g b a))

namespace Bulk

/-- What makes states adds to the bytes of those before. -/
def Grows (f : Bulk → Bulk) : Prop := ∀ b, b.bytes ≤ (f b).bytes

variable {f g : Bulk → Bulk} {b : Bulk} {n : Nat}

theorem bytes_le_add (b : Bulk) (n extra : Nat) : b.bytes ≤ (b.add n extra).bytes := by
  simp only [add]
  omega

theorem grows_add (n extra : Nat) : Grows fun b => b.add n extra := fun b => b.bytes_le_add n extra

theorem grows_fork : Grows fork := grows_add 1 (2 * wayWeight)

theorem Grows.comp (hg : Grows g) (hf : Grows f) : Grows fun b => g (f b) :=
  fun b => Nat.le_trans (hf b) (hg (f b))

theorem Grows.copies (hf : Grows f) (n : Nat) : Grows fun b => b.copies f n := by
  intro b
  induction n generalizing b with
  | zero => exact Nat.le_refl _
  | succ n ih =>
    dsimp only [Bulk.copies]
    split
    · exact Nat.le_refl _
    · exact Nat.le_trans (hf b) (ih (f b))

theorem Grows.isTooLarge (hf : Grows f) (h : b.isTooLarge = true) : (f b).isTooLarge = true :=
  decide_eq_true (Nat.lt_of_lt_of_le (of_decide_eq_true h) (hf b))

theorem repeat_succ (f : Bulk → Bulk) (n : Nat) (b : Bulk) :
    Nat.repeat f (n + 1) b = Nat.repeat f n (f b) := by
  induction n with
  | zero => rfl
  | succ n ih => exact congrArg f ih

theorem Grows.repeat (hf : Grows f) (n : Nat) : Grows (Nat.repeat f n) := by
  induction n with
  | zero => exact fun b => Nat.le_refl _
  | succ n ih => exact hf.comp ih

/-- Copies that are left out make no difference to whether states are too large. -/
theorem Grows.isTooLarge_copies (hf : Grows f) (n : Nat) (b : Bulk) :
    (b.copies f n).isTooLarge = (Nat.repeat f n b).isTooLarge := by
  induction n generalizing b with
  | zero => rfl
  | succ n ih =>
    rw [Bulk.copies]
    split
    · rename_i hlarge
      rw [hlarge, (hf.repeat (n + 1)).isTooLarge hlarge]
    · rw [ih, repeat_succ]

end Bulk

open Bulk

/-! ## Sets -/

namespace Recall

theorem bytes_le_state (capacity : Nat) (code : List Nat) (extra : Nat) (r : Recall) :
    r.bulk.bytes ≤ (state capacity code extra r).2.bulk.bytes := by
  obtain ⟨⟨n, bytes⟩, slots⟩ := r
  have hmade : bytes ≤ (Bulk.add ⟨n, bytes⟩ 1 extra).bytes := bytes_le_add ⟨n, bytes⟩ 1 extra
  unfold state
  dsimp only
  split
  · split
    · exact Nat.le_refl _
    · exact hmade
  · exact hmade

theorem bytes_le_backward (next : Nat) (s : ByteSequence) (r : Recall) :
    r.bulk.bytes ≤ (backward next s r).bulk.bytes := by
  induction s generalizing next r with
  | nil => exact Nat.le_refl _
  | cons x s ih => exact Nat.le_trans (bytes_le_state ..) (ih _ _)

theorem bytes_le_forward (last n : Nat) (ss : List ByteSequence) (r : Recall) :
    r.bulk.bytes ≤ (forward last n ss r).2.bulk.bytes := by
  induction n generalizing ss r with
  | zero => exact Nat.le_refl _
  | succ n ih =>
    refine Nat.le_trans (le_foldl (fun p : List Nat × Recall => p.2.bulk.bytes) ?_ ([], r))
      (bytes_le_state ..)
    rintro group - ⟨ways, r⟩
    dsimp only
    split
    · exact Nat.le_refl _
    · exact ih _ r

end Recall

namespace Bulk

theorem grows_forwardSet (s : CharSet) : Grows (forwardSet s) := by
  intro b
  unfold forwardSet
  split
  · exact bytes_le_add ..
  · exact Nat.le_trans (b.bytes_le_add 1 0)
      (Recall.bytes_le_forward b.states 4 (sequencesOf s) ⟨b.add 1 0, {}⟩)

theorem grows_backwardSet (s : CharSet) : Grows (backwardSet s) := by
  intro b
  unfold backwardSet
  split
  · exact bytes_le_add ..
  · let start : Recall := ⟨b.add 2 (wayWeight * (sequencesOf s).length), {}⟩
    have hall := le_foldl (fun r : Recall => r.bulk.bytes) (l := sequencesOf s)
      (fun t _ r => Recall.bytes_le_backward (b.states + 1) t r) start
    exact Nat.le_trans (b.bytes_le_add 2 (wayWeight * (sequencesOf s).length)) hall

/-! ## Expressions -/

theorem grows_tree (n : Nat) (ws : List (List UInt8)) : Grows (tree n ws) := by
  intro b
  induction n generalizing ws b with
  | zero => exact Nat.le_refl _
  | succ n ih =>
    unfold tree
    split
    · exact Nat.le_refl _
    · refine Nat.le_trans (le_foldl bytes (fun run _ b => ?_) b) (bytes_le_add ..)
      exact Nat.le_trans (le_foldl bytes (fun c _ b => ih _ b) b) (bytes_le_add ..)

theorem Grows.repeated (hf : Grows f) (least : Nat) (most : Option Nat) (canBeEmpty : Bool) :
    Grows (Bulk.repeated least most canBeEmpty f) := by
  intro b
  have hneeded : b.bytes ≤ (if least = 0 then b.add 1 0 else b.copies f least).bytes := by
    split
    · exact b.bytes_le_add 1 0
    · exact hf.copies least b
  have hforked : Grows fun b => f b.fork := hf.comp grows_fork
  unfold Bulk.repeated
  dsimp only
  split
  · split
    · split
      · exact ((grows_add 1 0).comp (grows_fork.comp (grows_fork.comp hf))) b
      · exact hforked b
    · exact grows_fork.comp (hf.copies least) b
  · rename_i m
    split
    · exact hneeded
    · split
      · exact (grows_add 1 0).comp hforked b
      · exact Nat.le_trans hneeded
          ((hforked.copies (m - least)).comp (grows_add 1 0) _)

end Bulk

namespace Direction

variable {d : Direction} {f : Bulk → Bulk}

theorem grows_set (d : Direction) (s : CharSet) : Grows (d.set s) := by
  cases d with
  | forward => exact grows_forwardSet s
  | backward => exact grows_backwardSet s

theorem grows_group (hf : Grows f) (d : Direction) : Grows (d.group f) := by
  cases d with
  | forward => exact (grows_add 1 0).comp (hf.comp (grows_add 1 0))
  | backward => exact hf

theorem grows_choice {es : List Expr} {fs : List (Bulk → Bulk)} (h : ∀ f ∈ fs, Grows f) :
    Grows (d.choice es fs) := by
  cases fs with
  | nil => exact fun b => Nat.le_refl _
  | cons f fs =>
    have hf : Grows f := h f List.mem_cons_self
    cases fs with
    | nil => exact hf
    | cons g fs =>
      have hg : Grows g := h g (by simp)
      intro b
      dsimp only [choice]
      split
      · exact (grows_tree _ _).comp (grows_add 1 0) b
      · refine Nat.le_trans ((grows_add 2 (2 * wayWeight)).comp (hg.comp hf) b)
          (le_foldl bytes (fun f' hf' => ?_) _)
        exact (grows_add 0 wayWeight).comp (h f' (by simp [hf']))

end Direction

namespace Expr

/-- **The states of an expression only add to those before**, whatever it is made up of. -/
theorem grows_branchStates (d : Direction) (e : Expr) : ∀ f ∈ e.branchStates d, Grows f := by
  induction e with
  | empty => exact List.forall_mem_singleton.2 (grows_add 1 0)
  | text t => exact List.forall_mem_singleton.2 (grows_add _ 0)
  | oneOf _ s => exact List.forall_mem_singleton.2 (d.grows_set s)
  | anchor a => exact List.forall_mem_singleton.2 (grows_add 1 0)
  | group _ _ e ih =>
    exact List.forall_mem_singleton.2 (d.grows_group (Direction.grows_choice ih))
  | times least most _ e ih =>
    exact List.forall_mem_singleton.2 ((Direction.grows_choice ih).repeated least most _)
  | seq e f ihe ihf =>
    have he : Grows (d.choice e.branches (e.branchStates d)) := Direction.grows_choice ihe
    have hf : Grows (d.choice f.branches (f.branchStates d)) := Direction.grows_choice ihf
    cases d with
    | forward => exact List.forall_mem_singleton.2 (hf.comp he)
    | backward => exact List.forall_mem_singleton.2 (he.comp hf)
  | alt e f ihe ihf =>
    intro g hg
    exact (List.mem_append.1 hg).elim (ihe g) (ihf g)

/-- **Copies that are not made would not change the answer**: the states of an expression several
times are too large exactly if those of all the copies are. -/
theorem isTooLarge_copies (d : Direction) (e : Expr) (n : Nat) (b : Bulk) :
    (b.copies (d.choice e.branches (e.branchStates d)) n).isTooLarge =
      (Nat.repeat (d.choice e.branches (e.branchStates d)) n b).isTooLarge :=
  (Direction.grows_choice (e.grows_branchStates d)).isTooLarge_copies n b

end Expr
end Regex
end TextScan
