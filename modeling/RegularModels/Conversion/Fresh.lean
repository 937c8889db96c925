import RegularModels.NameSet

/-!
# Fresh names

`fresh taken name` is `name` with as few primes at its end as are needed to keep
it out of a set of taken names.  The search ends because each refused candidate
is a member of the set, and every candidate is longer than the one before.
-/

namespace RegularModels

/-- A larger test counts more when it holds of one member that the smaller one misses. -/
theorem countP_lt_countP {α : Type} {smaller larger : α → Bool} {items : List α} {item : α}
    (weaker : ∀ other ∈ items, smaller other = true → larger other = true)
    (member : item ∈ items) (missed : smaller item = false) (held : larger item = true) :
    items.countP smaller < items.countP larger := by
  induction items with
  | nil => simp at member
  | cons head rest ih =>
    have restWeaker : ∀ other ∈ rest, smaller other = true → larger other = true :=
      fun other inRest => weaker other (List.mem_cons_of_mem _ inRest)
    have restLe : rest.countP smaller ≤ rest.countP larger := List.countP_mono_left restWeaker
    rw [List.countP_cons, List.countP_cons]
    rcases List.mem_cons.1 member with rfl | inRest
    · simp only [missed, held, Bool.false_eq_true, if_false, if_true]
      omega
    · have restLt := ih restWeaker inRest
      by_cases holds : smaller head = true
      · simp only [holds, weaker head (by simp) holds, if_true]
        omega
      · simp only [holds, Bool.false_eq_true, if_false]
        omega

/-- The number of taken names that are at least as long as a name. -/
def notShorter (taken : NameSet) (name : String) : Nat :=
  taken.toList.countP fun other => decide (name.length ≤ other.length)

/-- One prime more leaves fewer taken names that are long enough. -/
theorem notShorter_prime_lt {taken : NameSet} {name : String} (present : name ∈ taken) :
    notShorter taken (name ++ "'") < notShorter taken name := by
  have longer : (name ++ "'").length = name.length + 1 := by
    rw [String.length_append]
    rfl
  refine countP_lt_countP (fun other _ enough => ?_) present ?_ ?_
  · simp only [longer, decide_eq_true_eq] at enough ⊢
    omega
  · simp [longer]
  · simp

/-- The name with as few primes as are needed to keep it out of `taken`. -/
def fresh (taken : NameSet) (name : String) : String :=
  if name ∈ taken then fresh taken (name ++ "'") else name
termination_by notShorter taken name
decreasing_by exact notShorter_prime_lt ‹_›

/-- A fresh name is not taken. -/
theorem fresh_not_mem (taken : NameSet) (name : String) : fresh taken name ∉ taken := by
  fun_induction fresh taken name with
  | case1 name present ih => exact ih
  | case2 name absent => exact absent

/-- A free name is left as it is. -/
theorem fresh_of_not_mem {taken : NameSet} {name : String} (absent : name ∉ taken) :
    fresh taken name = name := by
  rw [fresh, if_neg absent]

/-- The given name, unless it is missing or empty. -/
def nameOr (name : Option String) (fallback : String) : String :=
  match name with
  | none | some "" => fallback
  | some given => given

end RegularModels
