import Mathlib.Data.List.FinRange
import Mathlib.Data.List.Induction
import Mathlib.Data.List.Sort

/-! Functional options: a configuration is built by applying a list of setters in order. -/

namespace Go

section Overwrites

variable {Config Opt Value : Type}

/-- An option sets a part of the configuration to a value of its own, or leaves it alone. -/
structure Overwrites (apply : Config → Opt → Config) (touches : Opt → Bool)
    (part : Config → Value) : Prop where
  hit : ∀ opt, touches opt = true → ∀ config other,
    part (apply config opt) = part (apply other opt)
  miss : ∀ opt, touches opt = false → ∀ config, part (apply config opt) = part config

/-- The last option of a list that touches a part. -/
def lastTouching (touches : Opt → Bool) (opts : List Opt) : Option Opt :=
  (opts.filter touches).getLast?

variable {apply : Config → Opt → Config} {touches : Opt → Bool} {part : Config → Value}

/-- The last option that touches a part decides it alone. -/
theorem Overwrites.foldl (law : Overwrites apply touches part) (config : Config)
    (opts : List Opt) :
    part (opts.foldl apply config) =
      (lastTouching touches opts).elim (part config) fun opt => part (apply config opt) := by
  -- The induction is on the end of the list, where the deciding option is looked for first.
  induction opts using List.reverseRecOn with
  | nil => rfl
  | append_singleton opts last ih =>
    rw [List.foldl_append, List.foldl_cons, List.foldl_nil]
    cases touched : touches last with
    | true =>
      rw [law.hit last touched _ config]
      simp [lastTouching, List.filter_append, touched]
    | false =>
      rw [law.miss last touched, ih]
      simp [lastTouching, List.filter_append, touched]

/-- Lists that agree on the options that touch a part agree on the part. -/
theorem Overwrites.agree (law : Overwrites apply touches part) (config : Config)
    {opts other : List Opt} (same : other.filter touches = opts.filter touches) :
    part (other.foldl apply config) = part (opts.foldl apply config) := by
  rw [law.foldl, law.foldl, lastTouching, lastTouching, same]

end Overwrites

section Permuted

variable {Item : Type}

/-- A list with its positions permuted. -/
def permuted (items : List Item) (from_ : Equiv.Perm (Fin items.length)) : List Item :=
  (List.finRange items.length).map fun position => items.get (from_ position)

/-- Items that are related stay in the order in which they were. -/
def KeepsOrder (related : Item → Item → Prop) (items : List Item)
    (from_ : Equiv.Perm (Fin items.length)) : Prop :=
  ∀ i j, i < j → related (items.get (from_ i)) (items.get (from_ j)) → from_ i < from_ j

/-- Items that are pairwise related are found in the same order after a permutation. -/
theorem KeepsOrder.filter {related : Item → Item → Prop} {items : List Item}
    {from_ : Equiv.Perm (Fin items.length)} (keeps : KeepsOrder related items from_)
    (chosen : Item → Bool)
    (pairwise : ∀ a b, chosen a = true → chosen b = true → related a b) :
    (permuted items from_).filter chosen = items.filter chosen := by
  -- Both sides read the items at the chosen positions, so the positions are compared.
  have positions : ((List.finRange items.length).filter fun i => chosen (items.get (from_ i))).map
      from_ = (List.finRange items.length).filter fun i => chosen (items.get i) := by
    have sorted : (((List.finRange items.length).filter fun i =>
        chosen (items.get (from_ i))).map from_).Pairwise (· < ·) := by
      rw [List.pairwise_map, List.pairwise_filter]
      refine (List.pairwise_lt_finRange items.length).imp ?_
      intro i j order first second
      exact keeps i j order (pairwise _ _ first second)
    have other : ((List.finRange items.length).filter fun i =>
        chosen (items.get i)).Pairwise (· < ·) :=
      (List.pairwise_lt_finRange items.length).filter _
    refine List.Perm.eq_of_pairwise ?_ sorted other ?_
    · intro i j _ _ up down
      exact absurd (up.trans down) (lt_irrefl i)
    · -- The permutation reaches every position.
      refine (List.perm_ext_iff_of_nodup sorted.nodup other.nodup).mpr ?_
      intro i
      simp only [List.mem_map, List.mem_filter, List.mem_finRange, true_and]
      constructor
      · rintro ⟨j, picked, rfl⟩
        exact picked
      · intro picked
        exact ⟨from_.symm i, by simpa using picked, by simp⟩
  calc (permuted items from_).filter chosen
      = (((List.finRange items.length).filter fun i => chosen (items.get (from_ i))).map
          from_).map items.get := by
        simp only [permuted, List.filter_map, List.map_map]
        rfl
    _ = ((List.finRange items.length).filter fun i => chosen (items.get i)).map items.get := by
        rw [positions]
    _ = items.filter chosen := by
        conv_rhs => rw [← List.map_get_finRange items, List.filter_map]
        rfl

end Permuted

end Go
