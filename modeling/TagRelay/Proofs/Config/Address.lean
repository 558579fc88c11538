import Mathlib.Data.List.Basic
import Mathlib.Data.List.TakeWhile
import TagRelay.Config.Address

/-!
# Addresses read back

An address that was read reads back from its text.  Numbers come back from their digits,
and the groups of an address of version 6 from the text that leaves out a run of zeros.
-/

namespace TagRelay.Config.Address

/-! ## Numbers -/

/-- A number that stands before the text ends there. -/
def Ends (text : List Char) : Prop := ∀ c ∈ text.head?, Text.hexValue c = none

theorem ends_cons {c : Char} (hc : Text.hexValue c = none) (text : List Char) :
    Ends (c :: text) := by
  simpa [Ends] using hc

theorem ends_nil : Ends [] := by simp [Ends]

theorem digitIn_digitChar {base figure : Nat} (hbase : base ≤ 16) (hfigure : figure < base) :
    digitIn base (Nat.digitChar figure) = some figure := by
  have hhex : ∀ figure < 16, Text.hexValue (Nat.digitChar figure) = some figure := by decide
  rw [digitIn, hhex figure (by omega), Option.filter_some_pos]
  simpa using hfigure

variable {base most limit n : Nat} {leadingZeros : Bool} {rest : List Char}

theorem digitIn_of_mem_toDigits (hbase : 1 < base) (hhex : base ≤ 16) {c : Char}
    (hc : c ∈ Nat.toDigits base n) : (digitIn base c).isSome := by
  induction n using Nat.base_induction base hbase with
  | single m hm =>
      rw [Nat.toDigits_of_lt_base hm, List.mem_singleton] at hc
      rw [hc, digitIn_digitChar hhex hm]
      rfl
  | digit m figure hfigure hm ih =>
      rw [← Nat.toDigits_append_toDigits hbase hm hfigure, List.mem_append,
        Nat.toDigits_of_lt_base hfigure, List.mem_singleton] at hc
      obtain hc | rfl := hc
      · exact ih hc
      · rw [digitIn_digitChar hhex hfigure]
        rfl

/-- The value of a row of digits. -/
theorem foldl_toDigits (hbase : 1 < base) (hhex : base ≤ 16) :
    (Nat.toDigits base n).foldl (fun n c => n * base + (digitIn base c).getD 0) 0 = n := by
  induction n using Nat.base_induction base hbase with
  | single m hm =>
      rw [Nat.toDigits_of_lt_base hm]
      simp [digitIn_digitChar hhex hm]
  | digit m figure hfigure hm ih =>
      rw [← Nat.toDigits_append_toDigits hbase hm hfigure, List.foldl_append, ih,
        Nat.toDigits_of_lt_base hfigure]
      simp [digitIn_digitChar hhex hfigure, Nat.mul_comm]

theorem head_toDigits (hbase : 1 < base) (hzero : (Nat.toDigits base n).head? = some '0') :
    n = 0 := by
  induction n using Nat.base_induction base hbase with
  | single m hm =>
      rw [Nat.toDigits_of_lt_base hm] at hzero
      simpa using hzero
  | digit m figure hfigure hm ih =>
      rw [← Nat.toDigits_append_toDigits hbase hm hfigure,
        List.head?_append_of_ne_nil _ Nat.toDigits_ne_nil] at hzero
      exact absurd (ih hzero) (by omega)

theorem takeWhile_of_ends (hrest : Ends rest) :
    rest.takeWhile (fun c => (digitIn base c).isSome) = [] := by
  cases rest with
  | nil => rfl
  | cons c rest =>
      have hdigit := hrest c rfl
      simp [digitIn, hdigit]

/-- A number is read from its digits. -/
theorem number_toDigits (hbase : 1 < base) (hhex : base ≤ 16) (hn : n < limit)
    (hlength : (Nat.toDigits base n).length ≤ most) (hrest : Ends rest) :
    number base most limit leadingZeros (Nat.toDigits base n ++ rest) = some (n, rest) := by
  have hfigures : (Nat.toDigits base n ++ rest).takeWhile (fun c => (digitIn base c).isSome) =
      Nat.toDigits base n := by
    rw [List.takeWhile_append_of_pos fun c hc => digitIn_of_mem_toDigits hbase hhex hc,
      takeWhile_of_ends hrest, List.append_nil]
  have hzero : ¬(1 < (Nat.toDigits base n).length ∧ (Nat.toDigits base n).head? = some '0') := by
    rintro ⟨hlong, hhead⟩
    rw [head_toDigits hbase hhead, Nat.toDigits_zero] at hlong
    simp at hlong
  simp only [number, hfigures, foldl_toDigits hbase hhex]
  rw [if_neg, if_neg, List.drop_left]
  · tauto
  · simp
    omega

/-- A number stays below its limit, and what follows it are the characters after its digits. -/
theorem number_eq_some {text : List Char}
    (hread : number base most limit leadingZeros text = some (n, rest)) :
    n < limit ∧ rest = text.dropWhile fun c => (digitIn base c).isSome := by
  simp only [number] at hread
  split at hread
  · nomatch hread
  · split at hread
    · nomatch hread
    · cases hread
      refine ⟨by omega, ?_⟩
      nth_rewrite 2 [← List.takeWhile_append_dropWhile (l := text)
        (p := fun c => (digitIn base c).isSome)]
      rw [List.drop_left]

theorem number_lt {text : List Char}
    (hread : number base most limit leadingZeros text = some (n, rest)) : n < limit :=
  (number_eq_some hread).1

/-! ## Octets -/

theorem toList_decimal (n : Nat) : (decimal n).toList = Nat.toDigits 10 n := by
  have hn : ¬(n : Int) < 0 := by omega
  rw [decimal, Decimal.wholeText, if_neg hn, String.toList_ofList, Decimal.digits,
    Int.natAbs_natCast]

theorem octet_toDigits (hn : n < 256) (hrest : Ends rest) :
    number 10 3 256 false (Nat.toDigits 10 n ++ rest) = some (n, rest) := by
  have hlength := (Nat.length_toDigits_le_iff (b := 10) (n := n) (k := 3) (by decide)
    (by decide)).mpr (by omega)
  exact number_toDigits (by decide) (by decide) hn hlength hrest

/-- Four numbers with points between them are read from their text. -/
theorem octets_octetsText {a b c d : Nat} (ha : a < 256) (hb : b < 256) (hc : c < 256)
    (hd : d < 256) (hrest : Ends rest) :
    octets ((octetsText [a, b, c, d]).toList ++ rest) = some ([a, b, c, d], rest) := by
  have hpoint (text : List Char) : Ends ('.' :: text) := ends_cons (by decide) text
  simp only [octetsText, String.toList_append, toList_decimal, List.append_assoc]
  simp [octets, Text.exactly, octet_toDigits, ha, hb, hc, hd, hpoint, hrest]

theorem octets_fit {text rest : List Char} {parts : List Nat}
    (hread : octets text = some (parts, rest)) :
    ∃ a b c d, parts = [a, b, c, d] ∧ a < 256 ∧ b < 256 ∧ c < 256 ∧ d < 256 := by
  simp only [octets, Option.bind_eq_bind, Option.bind_eq_some_iff] at hread
  obtain ⟨⟨a, r⟩, ha, r', -, ⟨b, s⟩, hb, s', -, ⟨c, t⟩, hc, t', -, ⟨d, u⟩, hd, hparts⟩ := hread
  cases hparts
  exact ⟨a, b, c, d, rfl, number_lt ha, number_lt hb, number_lt hc, number_lt hd⟩

theorem number_of_ends (hrest : Ends rest) : number base most limit leadingZeros rest = none := by
  simp [number, takeWhile_of_ends hrest]

theorem octets_of_ends (hrest : Ends rest) : octets rest = none := by
  simp [octets, number_of_ends hrest]

/-- A number that no point follows is no list of octets. -/
theorem octets_eq_none {figures : List Char} (hfigures : '.' ∉ figures) (hrest : Ends rest)
    (hpoint : rest.head? ≠ some '.') : octets (figures ++ rest) = none := by
  cases hread : number 10 3 256 false (figures ++ rest) with
  | none => simp [octets, hread]
  | some found =>
      obtain ⟨a, left⟩ := found
      -- What is left begins with one of the figures, or with what follows them.
      have hleft : left.head? ≠ some '.' := by
        rw [(number_eq_some hread).2, List.dropWhile_append]
        split
        case isTrue =>
          cases rest with
          | nil => simp
          | cons c rest => simpa [digitIn, hrest c rfl] using hpoint
        case isFalse hempty =>
          have hne : figures.dropWhile (fun c => (digitIn 10 c).isSome) ≠ [] := by
            simpa using hempty
          rw [List.head?_append_of_ne_nil _ hne]
          intro hhead
          exact hfigures ((List.dropWhile_sublist _).mem (List.mem_of_head? hhead))
      have hexactly : Text.exactly '.' left = none := by
        cases left with
        | nil => rfl
        | cons c left => simpa [Text.exactly] using hleft
      simp [octets, hread, hexactly]

/-! ## Groups -/

/-- The text of groups that others precede. -/
def furtherText (parts : List Nat) : List Char :=
  parts.flatMap fun part => ':' :: Nat.toDigits 16 part

theorem toList_groupsText (part : Nat) (parts : List Nat) :
    (groupsText (part :: parts)).toList = Nat.toDigits 16 part ++ furtherText parts := by
  induction parts generalizing part with
  | nil => simp [groupsText, furtherText]
  | cons next parts ih =>
      rw [groupsText, String.toList_append, String.toList_append, ih]
      · simp [furtherText]
      · simp

/-- What may follow the groups of an address: no digit, no point and no further group. -/
structure Follows (rest : List Char) : Prop where
  ends : Ends rest
  noPoint : rest.head? ≠ some '.'
  noGroup : ∀ more, rest = ':' :: more → Ends more

theorem Follows.cons {c : Char} (hc : Text.hexValue c = none) (hpoint : c ≠ '.') (hcolon : c ≠ ':')
    (more : List Char) : Follows (c :: more) where
  ends := ends_cons hc more
  noPoint := by simpa using hpoint
  noGroup _ hmore := absurd (List.cons.inj hmore).1 hcolon

theorem Follows.doubleColon (text : List Char) : Follows (':' :: ':' :: text) where
  ends := ends_cons (by decide) _
  noPoint := by simp
  noGroup more hmore := by
    cases hmore
    exact ends_cons (by decide) _

theorem groups_of_ends {text : List Char} (hends : Ends text) (room : Nat) :
    groups room true text = ([], false, text) := by
  cases room with
  | zero => rfl
  | succ room => simp [groups, octets_of_ends hends, number_of_ends hends]

theorem groups_of_follows (hrest : Follows rest) (room : Nat) :
    groups room false rest = ([], false, rest) := by
  cases room with
  | zero => rfl
  | succ room =>
      cases rest with
      | nil => rfl
      | cons c more =>
          by_cases hc : c = ':'
          · have hends := hrest.noGroup more (by rw [hc])
            simp [groups, Text.exactly, hc, octets_of_ends hends, number_of_ends hends]
          · simp [groups, Text.exactly, hc]

/-- One group, and the groups after it. -/
theorem groups_succ {room part : Nat} {first : Bool} {text rest : List Char}
    (hstart : (if first then some text else Text.exactly ':' text) =
      some (Nat.toDigits 16 part ++ rest)) (hpart : part < 65536) (hrest : Ends rest)
    (hpoint : rest.head? ≠ some '.') :
    groups (room + 1) first text =
      (part :: (groups room false rest).1, (groups room false rest).2) := by
  have hlength := (Nat.length_toDigits_le_iff (b := 16) (n := part) (k := 4) (by decide)
    (by decide)).mpr (by omega)
  have hnumber : number 16 4 65536 true (Nat.toDigits 16 part ++ rest) = some (part, rest) :=
    number_toDigits (by decide) (by decide) hpart hlength hrest
  have hdigits : '.' ∉ Nat.toDigits 16 part := fun hmem => by
    have := digitIn_of_mem_toDigits (by decide) (by decide) hmem
    contradiction
  rw [groups, hstart]
  simp [octets_eq_none hdigits hrest hpoint, hnumber]

theorem ends_furtherText (parts : List Nat) (hrest : Follows rest) :
    Ends (furtherText parts ++ rest) ∧ (furtherText parts ++ rest).head? ≠ some '.' := by
  cases parts with
  | nil => exact ⟨hrest.ends, hrest.noPoint⟩
  | cons part parts => exact ⟨ends_cons (by decide) _, by simp [furtherText]⟩

theorem groups_furtherText {room : Nat} {parts : List Nat} (hparts : ∀ part ∈ parts, part < 65536)
    (hroom : parts.length ≤ room) (hrest : Follows rest) :
    groups room false (furtherText parts ++ rest) = (parts, false, rest) := by
  induction parts generalizing room with
  | nil => exact groups_of_follows hrest room
  | cons part parts ih =>
      obtain ⟨hpart, hparts⟩ := List.forall_mem_cons.mp hparts
      obtain ⟨hends, hpoint⟩ := ends_furtherText parts hrest
      cases room with
      | zero => nomatch hroom
      | succ room =>
          rw [groups_succ (by simp [furtherText, Text.exactly]) hpart hends hpoint,
            ih hparts (by simpa using hroom)]

/-- Groups are read from their text. -/
theorem groups_groupsText {room : Nat} {parts : List Nat} (hparts : ∀ part ∈ parts, part < 65536)
    (hroom : parts.length ≤ room) (hrest : Follows rest) :
    groups room true ((groupsText parts).toList ++ rest) = (parts, false, rest) := by
  cases parts with
  | nil => simpa [groupsText] using groups_of_ends hrest.ends room
  | cons part parts =>
      obtain ⟨hpart, hparts⟩ := List.forall_mem_cons.mp hparts
      obtain ⟨hends, hpoint⟩ := ends_furtherText parts hrest
      cases room with
      | zero => nomatch hroom
      | succ room =>
          rw [toList_groupsText, List.append_assoc, groups_succ rfl hpart hends hpoint,
            groups_furtherText hparts (by simpa using hroom) hrest]

theorem groups_fit {room : Nat} {first embedded : Bool} {text rest : List Char} {parts : List Nat}
    (hread : groups room first text = (parts, embedded, rest)) :
    (∀ part ∈ parts, part < 65536) ∧ parts.length ≤ room := by
  induction room generalizing first text parts embedded with
  | zero =>
      cases hread
      simp
  | succ room ih =>
      -- No group starts here, or two are given as octets, or one is read and others may follow.
      rw [groups] at hread
      split at hread
      · cases hread
        simp
      · rename_i start hstart
        split at hread
        · rename_i a b c d rest hoctets
          cases hread
          split at hoctets
          · obtain ⟨_, _, _, _, heq, ha, hb, hc, hd⟩ := octets_fit hoctets
            cases heq
            simp
            omega
          · nomatch hoctets
        · split at hread
          · rename_i part rest hnumber
            cases hread
            obtain ⟨hsmall, hlength⟩ := ih rfl
            exact ⟨List.forall_mem_cons.mpr ⟨number_lt hnumber, hsmall⟩, by simpa using hlength⟩
          · cases hread
            simp

/-! ## Sixteen bytes -/

/-- A run of zeros is found where it stands. -/
theorem longestZeros_spec (index : Nat) (parts : List Nat) :
    (longestZeros index parts).2 = 0 ∨ ∃ before after,
      parts = before ++ List.replicate (longestZeros index parts).2 0 ++ after ∧
        (longestZeros index parts).1 = index + before.length := by
  induction parts generalizing index with
  | nil => exact .inl rfl
  | cons part parts ih =>
      -- A zero begins a run of its own, but the longest may still come later.
      have hlater : (longestZeros (index + 1) parts).2 = 0 ∨ ∃ before after,
          part :: parts =
              before ++ List.replicate (longestZeros (index + 1) parts).2 0 ++ after ∧
            (longestZeros (index + 1) parts).1 = index + before.length := by
        apply (ih (index + 1)).imp_right
        rintro ⟨before, after, hparts, hstart⟩
        refine ⟨part :: before, after, ?_, ?_⟩
        · rw [List.cons_append, List.cons_append, ← hparts]
        · rw [hstart, List.length_cons]
          omega
      cases part with
      | zero =>
          rw [longestZeros]
          split
          · refine .inr ⟨[], (0 :: parts).dropWhile (· == 0), ?_, rfl⟩
            have hrun : (0 :: parts).takeWhile (· == 0) =
                List.replicate ((0 :: parts).takeWhile (· == 0)).length 0 := by
              apply List.eq_replicate_of_mem
              intro part hpart
              simpa using List.mem_takeWhile_imp hpart
            rw [List.nil_append, ← hrun, List.takeWhile_append_dropWhile]
          · exact hlater
      | succ part =>
          rw [longestZeros]
          · exact hlater
          · simp

/-- Eight groups of two bytes. -/
structure Sixteen (parts : List Nat) : Prop where
  length : parts.length = 8
  small : ∀ part ∈ parts, part < 65536

theorem sixteenBytes_fit {text rest : List Char} {parts : List Nat}
    (hread : sixteenBytes text = some (parts, rest)) : Sixteen parts := by
  obtain ⟨head, embedded, left, hhead⟩ : ∃ head embedded left,
      groups 8 true text = (head, embedded, left) := ⟨_, _, _, rfl⟩
  obtain ⟨hsmall, hlength⟩ := groups_fit hhead
  rw [sixteenBytes, hhead] at hread
  simp only at hread
  split at hread
  case isTrue hfull =>
    cases hread
    exact ⟨hfull, hsmall⟩
  case isFalse hnotFull =>
    split at hread
    · nomatch hread
    · simp only [Option.bind_eq_bind, Option.bind_eq_some_iff] at hread
      obtain ⟨afterOne, -, afterTwo, -, hparts⟩ := hread
      obtain ⟨htailSmall, htailLength⟩ :=
        groups_fit (rfl : groups (8 - (head.length + 1)) true afterTwo = (_, _, _))
      cases hparts
      constructor
      · simp only [List.length_append, List.length_replicate]
        omega
      · simp only [List.mem_append, List.mem_replicate]
        rintro part ((hpart | ⟨-, rfl⟩) | hpart)
        · exact hsmall part hpart
        · decide
        · exact htailSmall part hpart

theorem groups_octetsText {room a b c d : Nat} (ha : a < 256) (hb : b < 256) (hc : c < 256)
    (hd : d < 256) (hrest : Ends rest) :
    groups (room + 2) false (':' :: ((octetsText [a, b, c, d]).toList ++ rest)) =
      ([a * 256 + b, c * 256 + d], true, rest) := by
  simp [groups, Text.exactly, octets_octetsText ha hb hc hd hrest]

/-- An address of version 4 within one of version 6. -/
theorem sixteenBytes_mapped {a b : Nat} (ha : a < 65536) (hb : b < 65536) (hrest : Ends rest) :
    sixteenBytes (("::ffff:" ++ octetsText [a / 256, a % 256, b / 256, b % 256]).toList ++ rest) =
      some ([0, 0, 0, 0, 0, 0xFFFF, a, b], rest) := by
  have hfirst : ∀ text, groups 8 true (':' :: ':' :: text) = ([], false, ':' :: ':' :: text) :=
    fun text => groups_of_ends (ends_cons (by decide) _) 8
  have hsecond : ∀ text, groups 7 true ('f' :: 'f' :: 'f' :: 'f' :: ':' :: text) =
      (0xFFFF :: (groups 6 false (':' :: text)).1, (groups 6 false (':' :: text)).2) :=
    fun text => groups_succ rfl (by decide) (ends_cons (by decide) _) (by simp)
  have hthird := @groups_octetsText rest 4 (a / 256) (a % 256) (b / 256) (b % 256) (by omega)
    (by omega) (by omega) (by omega) hrest
  rw [String.toList_append, List.append_assoc]
  simp [sixteenBytes, hfirst, hsecond, hthird, Text.exactly, Nat.div_add_mod']

/-- Groups are left out where a double colon stands for them. -/
theorem sixteenBytes_shortened {before after : List Nat} {length : Nat}
    (hparts : Sixteen (before ++ List.replicate length 0 ++ after)) (hlength : 1 < length)
    (hrest : Follows rest) :
    sixteenBytes ((groupsText before ++ "::" ++ groupsText after).toList ++ rest) =
      some (before ++ List.replicate length 0 ++ after, rest) := by
  have hsum := hparts.length
  simp only [List.length_append, List.length_replicate] at hsum
  have hbefore : groups 8 true _ = (before, false, _) :=
    groups_groupsText (fun part hpart => hparts.small part (by simp [hpart])) (by omega)
      (.doubleColon ((groupsText after).toList ++ rest))
  have hafter : groups (8 - (before.length + 1)) true _ = (after, false, rest) :=
    groups_groupsText (fun part hpart => hparts.small part (by simp [hpart])) (by omega) hrest
  have htext : (groupsText before ++ "::" ++ groupsText after).toList ++ rest =
      (groupsText before).toList ++ ':' :: ':' :: ((groupsText after).toList ++ rest) := by
    simp [String.toList_append]
  have hmissing : 8 - before.length - after.length = length := by omega
  have hshort : ¬before.length = 8 := by omega
  rw [htext, sixteenBytes, hbefore]
  simp only [if_neg hshort, Bool.false_eq_true, Text.exactly, ↓reduceIte, Option.bind_eq_bind,
    Option.bind_some, hafter, hmissing]
  rfl

theorem sixteenBytes_sixteenBytesText {parts : List Nat} (hparts : Sixteen parts)
    (hrest : Follows rest) :
    sixteenBytes ((sixteenBytesText parts).toList ++ rest) = some (parts, rest) := by
  rw [sixteenBytesText.eq_def]
  split
  · rename_i a b
    exact sixteenBytes_mapped (hparts.small a (by simp)) (hparts.small b (by simp)) hrest.ends
  · -- Whatever run is left out, the parts before and after it determine the address.
    have hzeros := longestZeros_spec 0 parts
    generalize longestZeros 0 parts = run at hzeros
    obtain ⟨start, length⟩ := run
    simp only at hzeros ⊢
    split
    · obtain hnone | ⟨before, after, rfl, rfl⟩ := hzeros
      · omega
      · rw [Nat.zero_add, List.append_assoc, List.take_left, ← List.append_assoc,
          List.drop_left' (by simp)]
        exact sixteenBytes_shortened hparts ‹_› hrest
    · rw [sixteenBytes, groups_groupsText hparts.small (by rw [hparts.length]) hrest]
      simp [hparts.length]

/-! ## Addresses with their ports -/

/-- The parts of an address are in range. -/
inductive Fits : Address → Prop
  | v4 {a b c d port : Nat} (ha : a < 256) (hb : b < 256) (hc : c < 256) (hd : d < 256)
      (hport : port < 65536) : Fits (.v4 [a, b, c, d] port)
  | v6 {parts : List Nat} {zone port : Nat} (hparts : Sixteen parts) (hzone : zone < Nat.pow 2 32)
      (hport : port < 65536) : Fits (.v6 parts zone port)

theorem portAfterColon_lt {text : List Char} (hread : portAfterColon text = some (n, rest)) :
    n < 65536 := by
  rw [portAfterColon, Option.bind_eq_bind, Option.bind_eq_some_iff] at hread
  obtain ⟨after, -, hnumber⟩ := hread
  exact number_lt hnumber

theorem portAfterColon_decimal {port : Nat} (hport : port < 65536) :
    portAfterColon (':' :: (decimal port).toList) = some (port, []) := by
  have hnumber : number 10 (Nat.toDigits 10 port).length 65536 true (Nat.toDigits 10 port ++ []) =
      some (port, []) := number_toDigits (by decide) (by decide) hport le_rfl ends_nil
  rw [List.append_nil] at hnumber
  simp [portAfterColon, Text.exactly, toList_decimal, hnumber]

theorem fits_of_read4 {text : List Char} {address : Address} (hread : read4 text = some address) :
    address.Fits := by
  simp only [read4, Option.bind_eq_bind, Option.bind_eq_some_iff] at hread
  obtain ⟨⟨parts, afterParts⟩, hparts, ⟨port, rest⟩, hport, haddress⟩ := hread
  split at haddress
  · cases haddress
    obtain ⟨a, b, c, d, rfl, ha, hb, hc, hd⟩ := octets_fit hparts
    exact .v4 ha hb hc hd (portAfterColon_lt hport)
  · nomatch haddress

/-- The end of an address of version 6, from its closing bracket. -/
def closing (parts : List Nat) (zone : Nat) (text : List Char) : Option Address := do
  let (port, rest) ← portAfterColon (← Text.exactly ']' text)
  if rest.isEmpty then some (.v6 parts zone port) else none

theorem read6_eq (text : List Char) :
    read6 text =
      (Text.exactly '[' text).bind fun inner =>
        (sixteenBytes inner).bind fun (parts, rest) =>
          match rest with
          | '%' :: rest =>
              (number 10 rest.length (Nat.pow 2 32) true rest).bind fun (zone, rest) =>
                closing parts zone rest
          | rest => closing parts 0 rest := rfl

theorem fits_of_closing {parts : List Nat} {zone : Nat} {text : List Char} {address : Address}
    (hparts : Sixteen parts) (hzone : zone < Nat.pow 2 32)
    (hread : closing parts zone text = some address) : address.Fits := by
  simp only [closing, Option.bind_eq_bind, Option.bind_eq_some_iff] at hread
  obtain ⟨after, -, ⟨port, rest⟩, hport, haddress⟩ := hread
  split at haddress
  · cases haddress
    exact .v6 hparts hzone (portAfterColon_lt hport)
  · nomatch haddress

theorem fits_of_read6 {text : List Char} {address : Address} (hread : read6 text = some address) :
    address.Fits := by
  simp only [read6_eq, Option.bind_eq_some_iff] at hread
  obtain ⟨inner, -, ⟨parts, rest⟩, hparts, hread⟩ := hread
  have hsixteen := sixteenBytes_fit hparts
  split at hread
  · obtain ⟨⟨zone, after⟩, hzone, hread⟩ := Option.bind_eq_some_iff.mp hread
    exact fits_of_closing hsixteen (number_lt hzone) hread
  · exact fits_of_closing hsixteen (by decide) hread

theorem fits_of_read {spelling : String} {address : Address}
    (hread : read spelling = some address) : address.Fits := by
  rw [read, Option.or_eq_some_iff] at hread
  obtain hread | ⟨-, hread⟩ := hread
  · exact fits_of_read4 hread
  · exact fits_of_read6 hread

theorem read4_text {a b c d port : Nat} (ha : a < 256) (hb : b < 256) (hc : c < 256)
    (hd : d < 256) (hport : port < 65536) :
    read4 (text (.v4 [a, b, c, d] port)).toList = some (.v4 [a, b, c, d] port) := by
  have htext : (text (.v4 [a, b, c, d] port)).toList =
      (octetsText [a, b, c, d]).toList ++ ':' :: (decimal port).toList := by
    simp [text, String.toList_append]
  rw [htext, read4, octets_octetsText ha hb hc hd (ends_cons (by decide) _)]
  simp [portAfterColon_decimal hport]

theorem closing_text {parts : List Nat} {zone port : Nat} (hport : port < 65536) :
    closing parts zone (']' :: ':' :: (decimal port).toList) = some (.v6 parts zone port) := by
  simp [closing, Text.exactly, portAfterColon_decimal hport]

theorem read6_text {parts : List Nat} {zone port : Nat} (hparts : Sixteen parts)
    (hzone : zone < Nat.pow 2 32) (hport : port < 65536) :
    read6 (text (.v6 parts zone port)).toList = some (.v6 parts zone port) := by
  by_cases hnone : zone = 0
  · have htext : (text (.v6 parts zone port)).toList =
        '[' :: ((sixteenBytesText parts).toList ++ ']' :: ':' :: (decimal port).toList) := by
      simp [text, String.toList_append, hnone]
    have hsixteen := sixteenBytes_sixteenBytesText hparts
      (.cons (c := ']') (by decide) (by decide) (by decide) (':' :: (decimal port).toList))
    rw [htext, read6_eq]
    simp only [Text.exactly, ↓reduceIte, Option.bind_some, hsixteen]
    rw [hnone]
    exact closing_text hport
  · have htext : (text (.v6 parts zone port)).toList =
        '[' :: ((sixteenBytesText parts).toList ++
          '%' :: (Nat.toDigits 10 zone ++ ']' :: ':' :: (decimal port).toList)) := by
      simp [text, String.toList_append, toList_decimal, hnone]
    have hsixteen := sixteenBytes_sixteenBytesText hparts
      (.cons (c := '%') (by decide) (by decide) (by decide)
        (Nat.toDigits 10 zone ++ ']' :: ':' :: (decimal port).toList))
    have hnumber : ∀ most, (Nat.toDigits 10 zone).length ≤ most →
        number 10 most (Nat.pow 2 32) true
          (Nat.toDigits 10 zone ++ ']' :: ':' :: (decimal port).toList) =
          some (zone, ']' :: ':' :: (decimal port).toList) := fun most hlength =>
      number_toDigits (by decide) (by decide) hzone hlength (ends_cons (by decide) _)
    rw [htext, read6_eq]
    simp only [Text.exactly, ↓reduceIte, Option.bind_some, hsixteen]
    rw [hnumber _ (by simp), Option.bind_some, closing_text hport]

/-- An address whose parts are in range is read from its text. -/
theorem read_text {address : Address} (hfits : address.Fits) :
    read address.text = some address := by
  cases hfits with
  | v4 ha hb hc hd hport => rw [read, read4_text ha hb hc hd hport, Option.some_or]
  | @v6 parts zone port hparts hzone hport =>
      have hbracket : read4 (text (.v6 parts zone port)).toList = none := by
        have htext : ∃ more, (text (.v6 parts zone port)).toList = '[' :: more := by
          simp [text, String.toList_append]
        obtain ⟨more, htext⟩ := htext
        rw [htext, read4, octets_of_ends (ends_cons (by decide) more)]
        rfl
      rw [read, hbracket, Option.none_or, read6_text hparts hzone hport]

/-- An address that was read is read from its text again. -/
theorem read_text_of_read {spelling : String} {address : Address}
    (hread : read spelling = some address) : read address.text = some address :=
  read_text (fits_of_read hread)

end TagRelay.Config.Address
