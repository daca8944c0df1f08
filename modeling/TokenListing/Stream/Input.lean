import TokenListing.Stream.Failure

/-! # Inputs

An input is the list of what its reads will give: runs of bytes, failures, and reads that give
nothing. A read never joins two runs, may be limited to a number of bytes, and is counted
whether it succeeds or not. A patient read tries again after an interruption.
-/
namespace TokenListing

inductive Input.Item where
  | data (bytes : List UInt8)
  | failure (failure : Failure)
  | pause
  deriving DecidableEq, Repr

structure Input where
  items : List Input.Item
  /-- The most bytes that one read gives. -/
  limit : Option Nat := none
  reads : Nat := 0
  deriving DecidableEq, Inhabited, Repr

namespace Input

def ofBytes (bytes : List UInt8) : Input :=
  { items := [.data bytes] }

def dropSpent : List Item → List Item
  | .data [] :: rest => dropSpent rest
  | items => items

/-- One read into a buffer of the given size. No bytes mean a pause or the end. -/
def read (input : Input) (size : Nat) : Except Failure (List UInt8) × Input :=
  match dropSpent input.items with
  | [] => (.ok [], { input with items := [], reads := input.reads + 1 })
  | .data bytes :: rest =>
    let count := min (input.limit.getD size) size
    (.ok (bytes.take count),
      { input with items := .data (bytes.drop count) :: rest, reads := input.reads + 1 })
  | .failure failure :: rest =>
    (.error failure, { input with items := rest, reads := input.reads + 1 })
  | .pause :: rest => (.ok [], { input with items := rest, reads := input.reads + 1 })

/-- The bytes up to the first read that gives none, unless a read before it fails. Interruptions
are passed over. -/
def contents (input : Input) : Except Failure (List UInt8) :=
  go input.items
where
  go : List Item → Except Failure (List UInt8)
    | [] => .ok []
    | .data bytes :: rest => (go rest).map (bytes ++ ·)
    | .failure failure :: rest => if failure.kind = .interrupted then go rest else .error failure
    | .pause :: _ => .ok []

/-- A bound on what an item still gives: the item itself and each of its bytes. -/
def Item.weight : Item → Nat
  | data bytes => bytes.length + 1
  | failure _ => 1
  | pause => 1

def weightOf : List Item → Nat
  | [] => 0
  | item :: rest => item.weight + weightOf rest

def weight (input : Input) : Nat :=
  weightOf input.items

theorem length_dropSpent_le (items : List Item) : (dropSpent items).length ≤ items.length := by
  fun_induction dropSpent items with
  | case1 rest ih => exact Nat.le_succ_of_le ih
  | case2 => exact Nat.le_refl _

theorem length_items_of_read_error {input next : Input} {size : Nat} {failure : Failure}
    (h : input.read size = (.error failure, next)) : next.items.length < input.items.length := by
  have spent := length_dropSpent_le input.items
  unfold read at h
  split at h <;> simp only [Prod.mk.injEq, reduceCtorEq, false_and] at h
  next rest heq =>
    rw [← h.2]
    rw [heq] at spent
    exact spent

/-- A read that is tried again as long as it is interrupted. -/
def readPatiently (input : Input) (size : Nat) : Except Failure (List UInt8) × Input :=
  match _hread : input.read size with
  | (.ok bytes, next) => (.ok bytes, next)
  | (.error failure, next) =>
    if failure.kind = .interrupted then next.readPatiently size else (.error failure, next)
termination_by input.items.length
decreasing_by exact length_items_of_read_error _hread

theorem weight_dropSpent_le (items : List Item) :
    weightOf (dropSpent items) ≤ weightOf items := by
  fun_induction dropSpent items with
  | case1 rest ih => exact Nat.le_add_left_of_le ih
  | case2 => exact Nat.le_refl _

/-- A read gives no more bytes than it takes from the input. -/
theorem weight_of_read_ok {input next : Input} {size : Nat} {bytes : List UInt8}
    (h : input.read size = (.ok bytes, next)) : next.weight + bytes.length ≤ input.weight := by
  have spent := weight_dropSpent_le input.items
  unfold read at h
  unfold weight
  split at h <;> simp only [Prod.mk.injEq, Except.ok.injEq, reduceCtorEq, false_and] at h <;>
    next heq =>
      obtain ⟨rfl, rfl⟩ := h
      rw [heq] at spent
      simp only [weightOf, Item.weight, List.length_drop, List.length_take,
        List.length_nil] at spent ⊢
      omega

theorem weight_of_read_error {input next : Input} {size : Nat} {failure : Failure}
    (h : input.read size = (.error failure, next)) : next.weight ≤ input.weight := by
  have spent := weight_dropSpent_le input.items
  unfold read at h
  unfold weight
  split at h <;> simp only [Prod.mk.injEq, reduceCtorEq, false_and] at h
  next heq =>
    obtain ⟨-, rfl⟩ := h
    rw [heq] at spent
    simp only [weightOf, Item.weight] at spent ⊢
    omega

theorem weight_of_readPatiently_ok {input next : Input} {size : Nat} {bytes : List UInt8}
    (h : input.readPatiently size = (.ok bytes, next)) :
    next.weight + bytes.length ≤ input.weight := by
  fun_induction readPatiently input size with
  | case1 input found after hread =>
    simp only [Prod.mk.injEq, Except.ok.injEq] at h
    obtain ⟨rfl, rfl⟩ := h
    exact weight_of_read_ok hread
  | case2 input failure after hread _ ih =>
    exact Nat.le_trans (ih h) (weight_of_read_error hread)
  | case3 => simp at h

theorem weight_of_readPatiently_error {input next : Input} {size : Nat} {failure : Failure}
    (h : input.readPatiently size = (.error failure, next)) : next.weight ≤ input.weight := by
  fun_induction readPatiently input size with
  | case1 => simp at h
  | case2 input failure after hread _ ih =>
    exact Nat.le_trans (ih h) (weight_of_read_error hread)
  | case3 input failure after hread =>
    simp only [Prod.mk.injEq] at h
    exact h.2 ▸ weight_of_read_error hread

end Input
end TokenListing
