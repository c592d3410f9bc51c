import ClientBindings.Json.Reader
import ClientBindings.Proofs.Fallible

/-!
# Reading — the fuel of the reader

A reader that runs out of fuel refuses its input, which cannot be told from input that breaks the
grammar.  So the fuel that a text is read with has to be enough.  It is: whatever is read takes up
some of the input, and fuel of more than twice the length of the input is never spent.

* `LeavesLess`, `Advances`, `advancing` — reading takes up some of its input;
* `Settled`, `settled` — where one more unit of fuel changes nothing;
* `value_eq_of_le`, `readWith_eq_read` — the answer with any fuel that is enough.
-/

namespace ClientBindings
namespace Json
namespace Reader

/-! ## Input that is left -/

/-- What is read leaves fewer characters than a limit. -/
def LeavesLess {α : Type} (limit : Nat) (read : Read (α × Input)) : Prop :=
  ∀ a rest, read = .ok (a, rest) → rest.length < limit

namespace LeavesLess

variable {α β : Type} {limit : Nat}

theorem ok {a : α} {rest : Input} (h : rest.length < limit) :
    LeavesLess limit (.ok (a, rest)) := by
  intro b other same
  have left : rest = other := congrArg Prod.snd (Except.ok.inj same)
  exact left ▸ h

theorem error {fault : ReadFault} : LeavesLess limit (.error fault : Read (α × Input)) := by
  intro a rest same
  cases same

/-- What is read next starts with the input that is left. -/
theorem bind {most : Nat} {read : Read (α × Input)} {next : α × Input → Read (β × Input)}
    (hread : LeavesLess most read)
    (hnext : ∀ a rest, rest.length < most → LeavesLess limit (next (a, rest))) :
    LeavesLess limit (read >>= next) := by
  intro b last h
  obtain ⟨⟨a, rest⟩, first, h⟩ := Except.bind_eq_ok.mp h
  exact hnext a rest (hread a rest first) b last h

theorem grammar {read? : Option (α × Input)}
    (h : ∀ a rest, read? = some (a, rest) → rest.length < limit) :
    LeavesLess limit (Reader.grammar read?) := by
  cases read? with
  | none => exact error
  | some read => exact ok (h read.1 read.2 rfl)

end LeavesLess

/-- Whatever is read takes up some of the input. -/
def Advances {α : Type} (read : Input → Read (α × Input)) : Prop :=
  ∀ cs, LeavesLess cs.length (read cs)

theorem length_skipSpace_le (cs : Input) : (skipSpace cs).length ≤ cs.length :=
  (List.dropWhile_sublist isSpace).length_le

/-- The first character behind space is a character of the input. -/
theorem length_lt_of_skipSpace {cs rest : Input} {c : Char} (h : skipSpace cs = c :: rest) :
    rest.length < cs.length := by
  have shorter := length_skipSpace_le cs
  rw [h, List.length_cons] at shorter
  omega

theorem length_after?_le {word : String} {cs rest : Input} (h : after? word cs = some rest) :
    rest.length + word.length ≤ cs.length := by
  unfold after? at h
  split at h
  · next starts =>
    have inside := (List.isPrefixOf_iff_prefix.mp starts).length_le
    have left : (cs.drop word.length).length = rest.length := by rw [Option.some.inj h]
    rw [List.length_drop] at left
    rw [String.length_toList] at inside
    omega
  · simp at h

/-! ## Texts -/

/-- A unit in front of others leaves the input behind them as it is. -/
theorem exists_units?_of_cons {unit : Nat} {units : List Nat} {cs rest : Input}
    (h : (do
      let (others, rest) ← units? cs
      return (unit :: others, rest)) = some (units, rest)) :
    ∃ others, units? cs = some (others, rest) := by
  obtain ⟨⟨others, last⟩, read, h⟩ := Option.bind_eq_some_iff.mp h
  have same : last = rest := congrArg Prod.snd (Option.some.inj h)
  exact ⟨others, same ▸ read⟩

theorem length_units?_lt {cs rest : Input} {units : List Nat} (h : units? cs = some (units, rest)) :
    rest.length < cs.length := by
  induction cs using units?.induct generalizing units with
  | case1 => simp [units?] at h
  | case2 behind =>
    have same : behind = rest := congrArg Prod.snd (Option.some.inj h)
    simp [same]
  | case3 a b c d behind ih =>
    obtain ⟨unit, _, h⟩ := Option.bind_eq_some_iff.mp h
    obtain ⟨others, read⟩ := exists_units?_of_cons h
    have shorter := ih read
    simp only [List.length_cons]
    omega
  | case4 c behind plain ih =>
    rw [units?.eq_4 c behind plain] at h
    obtain ⟨unit, _, h⟩ := Option.bind_eq_some_iff.mp h
    obtain ⟨others, read⟩ := exists_units?_of_cons h
    have shorter := ih read
    simp only [List.length_cons]
    omega
  | case5 c behind quote half plain control =>
    rw [units?.eq_5 c behind quote half plain, if_pos control] at h
    simp at h
  | case6 c behind quote half plain control ih =>
    rw [units?.eq_5 c behind quote half plain, if_neg control] at h
    obtain ⟨others, read⟩ := exists_units?_of_cons h
    have shorter := ih read
    simp only [List.length_cons]
    omega

theorem advances_text : Advances text := by
  intro cs
  refine (LeavesLess.grammar fun units rest => length_units?_lt).bind fun units rest shorter => ?_
  intro s last h
  obtain ⟨letters, _, h⟩ := Except.bind_eq_ok.mp h
  exact LeavesLess.ok shorter s last h

/-! ## Numbers -/

theorem length_whole?_lt {cs rest digits : List Char} (h : whole? cs = some (digits, rest)) :
    rest.length < cs.length := by
  unfold whole? at h
  split at h
  · next behind =>
    have same : behind = rest := congrArg Prod.snd (Option.some.inj h)
    simp [same]
  · split at h
    · simp at h
    · next filled =>
      have same : cs.dropWhile Char.isDigit = rest := congrArg Prod.snd (Option.some.inj h)
      have some_digit := List.length_pos_iff.mpr filled
      have all := congrArg List.length
        (List.takeWhile_append_dropWhile (p := Char.isDigit) (l := cs))
      rw [List.length_append, same] at all
      omega

theorem length_fraction_le (cs : Input) : (fraction cs).2.length ≤ cs.length := by
  unfold fraction
  split
  · next rest =>
    split
    · exact Nat.le_refl _
    · have shorter := (List.dropWhile_sublist (l := rest) Char.isDigit).length_le
      simp only [List.length_cons]
      omega
  · exact Nat.le_refl _

theorem length_sign_le (cs : Input) : (sign cs).2.length ≤ cs.length := by
  unfold sign
  split <;> simp

theorem length_exponent?_le {cs rest : Input} {n : Int} (h : exponent? cs = some (n, rest)) :
    rest.length ≤ cs.length := by
  unfold exponent? at h
  split at h
  · next e behind =>
    split at h
    · have signed := length_sign_le behind
      dsimp only at h
      split at h
      · simp at h
      · have same : (sign behind).2.dropWhile Char.isDigit = rest :=
          congrArg Prod.snd (Option.some.inj h)
        have digits := (List.dropWhile_sublist (l := (sign behind).2) Char.isDigit).length_le
        rw [same] at digits
        simp only [List.length_cons]
        omega
    · simp at h
  · simp at h

theorem advances_unsigned (negative : Bool) : Advances (unsigned negative) := by
  intro cs
  refine (LeavesLess.grammar fun digits rest => length_whole?_lt).bind fun digits rest shorter => ?_
  have fractional := length_fraction_le rest
  dsimp only
  split
  · split
    · exact .error
    · exact .ok (by omega)
  · refine .ok ?_
    cases power : exponent? (fraction rest).2 with
    | none =>
      dsimp only [Option.getD_none]
      omega
    | some found =>
      have behind := length_exponent?_le power
      dsimp only [Option.getD_some]
      omega

theorem advances_number : Advances number := by
  intro cs
  unfold number
  split
  · next rest =>
    rw [List.length_cons]
    split
    · next last infinite =>
      have shorter := length_after?_le infinite
      exact .ok (by omega)
    · intro j last h
      have shorter := advances_unsigned true rest j last h
      omega
  · exact advances_unsigned false _

theorem length_pos_of_mem_words : ∀ entry ∈ words, 0 < entry.1.length := by
  have letters : (words.map Prod.fst).all (0 < ·.length) = true := by decide
  simpa using letters

theorem length_word?_lt {cs rest : Input} {j : Json} (h : word? cs = some (j, rest)) :
    rest.length < cs.length := by
  obtain ⟨⟨word, entry⟩, known, found⟩ := List.exists_of_findSome?_eq_some h
  obtain ⟨last, behind, same⟩ := Option.map_eq_some_iff.mp found
  have left : last = rest := congrArg Prod.snd same
  have shorter := length_after?_le behind
  have letters : 0 < word.length := length_pos_of_mem_words _ known
  rw [left] at shorter
  omega

theorem advances_scalar : Advances scalar := by
  intro cs
  unfold scalar
  split
  · next read found => exact .ok (length_word?_lt found)
  · exact advances_number cs

/-! ## Values -/

variable {fuel : Nat}

theorem advances_value (hitems : Advances (items fuel)) (hmembers : Advances (members fuel)) :
    Advances (value (fuel + 1)) := by
  intro cs
  unfold value
  split
  · exact .error
  · next n rest spent =>
    rw [List.length_cons]
    exact (advances_text rest).bind fun s last shorter => .ok (by omega)
  · next n rest spent =>
    -- The cases were split over all fuel, not over one more than `fuel`.
    obtain rfl := Nat.succ.inj spent
    have space := length_skipSpace_le rest
    rw [List.length_cons]
    split
    · next last closed =>
      have behind := length_lt_of_skipSpace closed
      exact .ok (by omega)
    · exact (hitems (skipSpace rest)).bind fun found last shorter => .ok (by omega)
  · next n rest spent =>
    obtain rfl := Nat.succ.inj spent
    have space := length_skipSpace_le rest
    rw [List.length_cons]
    split
    · next last closed =>
      have behind := length_lt_of_skipSpace closed
      exact .ok (by omega)
    · exact (hmembers (skipSpace rest)).bind fun found last shorter => .ok (by omega)
  · exact advances_scalar _

theorem advances_items (hvalue : Advances (value fuel)) (hitems : Advances (items fuel)) :
    Advances (items (fuel + 1)) := by
  intro cs
  refine (hvalue cs).bind fun item rest shorter => ?_
  dsimp only
  split
  · next last closed =>
    have behind := length_lt_of_skipSpace closed
    exact .ok (by omega)
  · next last comma =>
    have behind := length_lt_of_skipSpace comma
    have gap := length_skipSpace_le last
    refine (hitems (skipSpace last)).bind fun others final least => .ok ?_
    dsimp only
    omega
  · exact .error

theorem advances_members (hvalue : Advances (value fuel)) (hmembers : Advances (members fuel)) :
    Advances (members (fuel + 1)) := by
  intro cs
  unfold members
  split
  · exact .error
  · next n letters spent =>
    obtain rfl := Nat.succ.inj spent
    rw [List.length_cons]
    refine (advances_text letters).bind fun name rest shorter => ?_
    dsimp only
    split
    · next entry colon =>
      have named := length_lt_of_skipSpace colon
      have space := length_skipSpace_le entry
      refine (hvalue (skipSpace entry)).bind fun found rest further => ?_
      dsimp only
      split
      · next last closed =>
        have behind := length_lt_of_skipSpace closed
        exact .ok (by omega)
      · next last comma =>
        have behind := length_lt_of_skipSpace comma
        have gap := length_skipSpace_le last
        refine (hmembers (skipSpace last)).bind fun others final least => .ok ?_
        dsimp only
        omega
      · exact .error
    · exact .error
  · exact .error

/-- With any fuel, whatever is read takes up some of the input. -/
structure Advancing (fuel : Nat) : Prop where
  value : Advances (value fuel)
  items : Advances (items fuel)
  members : Advances (members fuel)

theorem advancing (fuel : Nat) : Advancing fuel := by
  induction fuel with
  | zero =>
    refine ⟨?_, ?_, ?_⟩
    · intro cs
      exact .error
    · intro cs
      exact .error
    · intro cs
      exact .error
  | succ fuel ih =>
    exact ⟨advances_value ih.items ih.members, advances_items ih.value ih.items,
      advances_members ih.value ih.members⟩

/-! ## Fuel that is enough -/

section Congruence

variable {other : Nat} {cs : Input}

/-- What is in a value is read from a shorter input. -/
theorem value_congr
    (hitems : ∀ rest : Input, rest.length < cs.length → items fuel rest = items other rest)
    (hmembers : ∀ rest : Input, rest.length < cs.length → members fuel rest = members other rest) :
    value (fuel + 1) cs = value (other + 1) cs := by
  cases cs with
  | nil => rfl
  | cons c rest =>
    have space : (skipSpace rest).length < (c :: rest).length := by
      have shorter := length_skipSpace_le rest
      rw [List.length_cons]
      omega
    by_cases quote : c = '\x22'
    · -- Neither a text nor a scalar spends any fuel.
      subst quote
      rfl
    · by_cases list : c = '['
      · subst list
        rw [value, value]
        split
        · rfl
        · rw [hitems _ space]
      · by_cases object : c = '\x7b'
        · subst object
          rw [value, value]
          split
          · rfl
          · rw [hmembers _ space]
        · rw [value.eq_5, value.eq_5]
          all_goals simp [quote, list, object]

/-- The first item is read from the whole input, and those behind it from a shorter one. -/
theorem items_congr (hvalue : value fuel cs = value other cs)
    (hitems : ∀ rest : Input, rest.length < cs.length → items fuel rest = items other rest) :
    items (fuel + 1) cs = items (other + 1) cs := by
  rw [items, items, hvalue]
  refine Except.bind_congr_of_eq_ok fun read h => ?_
  obtain ⟨item, rest⟩ := read
  have shorter := (advancing other).value cs item rest h
  dsimp only
  split
  · rfl
  · next last comma =>
    have behind := length_lt_of_skipSpace comma
    have gap := length_skipSpace_le last
    rw [hitems _ (by omega)]
  · rfl

/-- The values of members, and the members behind them, are read from a shorter input. -/
theorem members_congr
    (hvalue : ∀ rest : Input, rest.length < cs.length → value fuel rest = value other rest)
    (hmembers : ∀ rest : Input, rest.length < cs.length → members fuel rest = members other rest) :
    members (fuel + 1) cs = members (other + 1) cs := by
  cases cs with
  | nil => rfl
  | cons c letters =>
    by_cases quote : c = '\x22'
    · subst quote
      rw [members, members]
      refine Except.bind_congr_of_eq_ok fun read h => ?_
      obtain ⟨name, rest⟩ := read
      have shorter := advances_text letters name rest h
      rw [List.length_cons] at hvalue hmembers
      dsimp only
      split
      · next entry colon =>
        have named := length_lt_of_skipSpace colon
        have space := length_skipSpace_le entry
        rw [hvalue _ (by omega)]
        refine Except.bind_congr_of_eq_ok fun read h => ?_
        obtain ⟨found, rest⟩ := read
        have further := (advancing other).value _ found rest h
        dsimp only
        split
        · rfl
        · next last comma =>
          have behind := length_lt_of_skipSpace comma
          have gap := length_skipSpace_le last
          rw [hmembers _ (by omega)]
        · rfl
      · rfl
    · rw [members.eq_3, members.eq_3]
      all_goals simp [quote]

end Congruence

/-- Where the fuel is more than twice the length of the input, one more unit changes nothing.  Items
spend one unit more than the first of them; members have a quote in front. -/
structure Settled (fuel : Nat) : Prop where
  value : ∀ cs : Input, 2 * cs.length < fuel → value (fuel + 1) cs = value fuel cs
  items : ∀ cs : Input, 2 * cs.length + 1 < fuel → items (fuel + 1) cs = items fuel cs
  members : ∀ cs : Input, 2 * cs.length < fuel → members (fuel + 1) cs = members fuel cs

theorem settled (fuel : Nat) : Settled fuel := by
  induction fuel with
  | zero =>
    -- Without fuel there is not enough of it for any input.
    refine ⟨?_, ?_, ?_⟩
    · intro cs enough
      omega
    · intro cs enough
      omega
    · intro cs enough
      omega
  | succ fuel ih =>
    refine ⟨?_, ?_, ?_⟩
    · intro cs enough
      exact value_congr (fun rest shorter => ih.items rest (by omega))
        fun rest shorter => ih.members rest (by omega)
    · intro cs enough
      exact items_congr (ih.value cs (by omega)) fun rest shorter => ih.items rest (by omega)
    · intro cs enough
      exact members_congr (fun rest shorter => ih.value rest (by omega))
        fun rest shorter => ih.members rest (by omega)

/-- All fuel that is enough leads to one answer. -/
theorem value_eq_of_le {cs : Input} {n : Nat} (enough : 2 * cs.length < fuel) (more : fuel ≤ n) :
    value n cs = value fuel cs := by
  induction more with
  | refl => rfl
  | step more ih => rw [(settled _).value cs (Nat.lt_of_lt_of_le enough more), ih]

end Reader

/-- A text is read as with any fuel that is more than twice its length. -/
theorem readWith_eq_read {fuel : Nat} {text : String} (enough : 2 * text.toList.length < fuel) :
    readWith fuel text = read text := by
  have space := Reader.length_skipSpace_le text.toList
  have answer : Reader.value fuel (Reader.skipSpace text.toList) =
      Reader.value (2 * text.toList.length + 1) (Reader.skipSpace text.toList) :=
    Reader.value_eq_of_le (by omega) enough
  rw [read, readWith, readWith, answer]

end Json
end ClientBindings
