import TagRelay.Metrics.Basic

/-!
# Sums of tallies

Counting adds to the total of a tally what was counted, whichever counts are shared.  A
sum over keys is another matter: it is the total only where no two of them share a count.
-/

namespace TagRelay

namespace Tally

variable {κ : Type} [Labelled κ]

omit [Labelled κ] in
@[simp]
theorem total_nil : total ([] : Tally κ) = 0 := rfl

omit [Labelled κ] in
@[simp]
theorem total_cons (key : κ) (n : Nat) (tally : Tally κ) :
    total ((key, n) :: tally) = n + total tally := rfl

@[simp]
theorem total_add (key : κ) (count : Nat) (tally : Tally κ) :
    (add key count tally).total = tally.total + count := by
  induction tally with
  | nil => simp [add]
  | cons entry rest ih =>
      obtain ⟨other, n⟩ := entry
      rw [add]
      split
      · rw [total_cons, total_cons]
        omega
      · rw [total_cons, total_cons, ih]
        omega

/-! ## Keys -/

def keys (tally : Tally κ) : List κ := tally.map Prod.fst

/-- No two of the keys share a count. -/
def Apart (names : List κ) : Prop := names.Pairwise fun key other => sharing key other = false

theorem sharing_comm (key other : κ) : sharing key other = sharing other key :=
  BEq.comm

theorem sharing_self (key : κ) : sharing key key = true := beq_self_eq_true _

/-- A tally never has two counts where one would do. -/
theorem keys_add (key : κ) (count : Nat) (tally : Tally κ) :
    keys (add key count tally) = keys tally ∨
      keys (add key count tally) = keys tally ++ [key] ∧
        ∀ other ∈ keys tally, sharing key other = false := by
  induction tally with
  | nil => exact Or.inr ⟨rfl, by simp [keys]⟩
  | cons entry rest ih =>
      obtain ⟨other, n⟩ := entry
      rw [add]
      split
      · exact Or.inl rfl
      · rename_i hother
        rcases ih with hsame | ⟨hnew, hall⟩
        · exact Or.inl (congrArg (other :: ·) hsame)
        · refine Or.inr ⟨congrArg (other :: ·) hnew, ?_⟩
          intro x hx
          rcases List.mem_cons.mp hx with rfl | hx
          · exact Bool.eq_false_iff.mpr hother
          · exact hall x hx

theorem Apart.add {tally : Tally κ} (hapart : Apart (keys tally)) (key : κ) (count : Nat) :
    Apart (keys (add key count tally)) := by
  rcases keys_add key count tally with hsame | ⟨hnew, hall⟩
  · rw [hsame]
    exact hapart
  · rw [hnew]
    refine List.pairwise_append.mpr ⟨hapart, List.pairwise_singleton _ _, ?_⟩
    intro other hother x hx
    obtain rfl := List.mem_singleton.mp hx
    rw [sharing_comm]
    exact hall other hother

theorem mem_keys_add {key other : κ} {count : Nat} {tally : Tally κ}
    (hother : other ∈ keys (add key count tally)) : other ∈ keys tally ∨ other = key := by
  rcases keys_add key count tally with hsame | ⟨hnew, -⟩
  · rw [hsame] at hother
    exact Or.inl hother
  · rw [hnew] at hother
    exact (List.mem_append.mp hother).imp_right List.mem_singleton.mp

theorem count_eq_zero {key : κ} {tally : Tally κ}
    (hkey : ∀ other ∈ keys tally, sharing key other = false) : count key tally = 0 := by
  induction tally with
  | nil => rfl
  | cons entry rest ih =>
      obtain ⟨other, n⟩ := entry
      have hother : sharing key other = false := hkey other List.mem_cons_self
      rw [count, hother]
      exact ih fun x hx => hkey x (List.mem_cons_of_mem other hx)

/-- The counts of several keys together. -/
def countAll (names : List κ) (tally : Tally κ) : Nat :=
  names.foldr (fun key sum => count key tally + sum) 0

theorem countAll_cons (key : κ) (names : List κ) (tally : Tally κ) :
    countAll (key :: names) tally = count key tally + countAll names tally := rfl

theorem countAll_append (names others : List κ) (tally : Tally κ) :
    countAll (names ++ others) tally = countAll names tally + countAll others tally := by
  induction names with
  | nil => simp [countAll]
  | cons key names ih =>
      calc countAll (key :: names ++ others) tally
          = count key tally + (countAll names tally + countAll others tally) := by
            rw [List.cons_append, countAll_cons, ih]
        _ = countAll (key :: names) tally + countAll others tally :=
            (Nat.add_assoc _ _ _).symm

theorem countAll_congr {names : List κ} {tally after : Tally κ}
    (hsame : ∀ key ∈ names, count key tally = count key after) :
    countAll names tally = countAll names after := by
  induction names with
  | nil => rfl
  | cons key names ih =>
      obtain ⟨hkey, hnames⟩ := List.forall_mem_cons.mp hsame
      rw [countAll_cons, countAll_cons, hkey, ih hnames]

theorem countAll_nil (names : List κ) : countAll names ([] : Tally κ) = 0 := by
  induction names with
  | nil => rfl
  | cons key names ih => rw [countAll_cons, ih, count]

/-- Where no two keys share a count, their counts make up the total. -/
theorem countAll_eq_total {names : List κ} (hnames : Apart names) {tally : Tally κ}
    (hapart : Apart (keys tally)) (hmem : ∀ key ∈ keys tally, key ∈ names) :
    countAll names tally = tally.total := by
  induction tally with
  | nil => exact countAll_nil names
  | cons entry rest ih =>
      obtain ⟨key, n⟩ := entry
      obtain ⟨hkey, hrest⟩ := List.pairwise_cons.mp hapart
      have hzero : count key rest = 0 := count_eq_zero hkey
      have htotal := ih hrest fun other hother => hmem other (List.mem_cons_of_mem key hother)
      obtain ⟨before, after, rfl⟩ := List.append_of_mem (hmem key List.mem_cons_self)
      obtain ⟨-, hafter, hcross⟩ := List.pairwise_append.mp hnames
      obtain ⟨hafter, -⟩ := List.pairwise_cons.mp hafter
      -- the first count is that of the key alone
      have hother : ∀ other, sharing other key = false →
          count other ((key, n) :: rest) = count other rest := by
        intro other hunshared
        rw [count, hunshared]
        rfl
      have hbefore : countAll before ((key, n) :: rest) = countAll before rest :=
        countAll_congr fun other hmem => hother other (hcross other hmem key List.mem_cons_self)
      have hafter' : countAll after ((key, n) :: rest) = countAll after rest :=
        countAll_congr fun other hmem => hother other (sharing_comm other key ▸ hafter other hmem)
      have hself : count key ((key, n) :: rest) = n := by
        rw [count, sharing_self]
        rfl
      rw [countAll_append, countAll_cons, hzero] at htotal
      rw [countAll_append, countAll_cons, hbefore, hafter', hself, total_cons]
      omega

end Tally

/-! ## Counting an event -/

namespace Metrics

namespace Event

def isReceived : Event → Bool
  | .received => true
  | _ => false

def isSent : Event → Bool
  | .sent => true
  | _ => false

end Event

theorem record_received (m : Metrics) (event : Event) :
    (m.record event).received = m.received + event.isReceived.toNat := by
  cases event with
  | conversionFailures device count => cases count <;> rfl
  | pollCycle | received | sent | readFailure | call => rfl

theorem record_sent (m : Metrics) (event : Event) :
    (m.record event).sent = m.sent + event.isSent.toNat := by
  cases event with
  | conversionFailures device count => cases count <;> rfl
  | pollCycle | received | sent | readFailure | call => rfl

end Metrics

end TagRelay
