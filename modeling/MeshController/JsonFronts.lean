import MeshController.JsonText

/-!
# Fronts of a JSON text

What has been read of a text stays as it is when more comes behind it, unless
it is a number, which more digits continue.  A written value which has been
cut is therefore not taken for another one.
-/

namespace JsonText

/-- What has been read of a text does not depend on what comes behind. -/
theorem readText_append
    {text rest : List Char} {read : List Char}
    (hread : readText text = some (read, rest)) (more : List Char) :
    readText (text ++ more) = some (read, rest ++ more) := by
  fun_induction readText text generalizing read rest with
  | case1 => cases hread
  | case2 behind =>
      simp only [Option.some.injEq, Prod.mk.injEq] at hread
      rcases hread with ⟨rfl, rfl⟩
      rfl
  | case3 => cases hread
  | case4 a b c d behind number hnumber hvalid ih =>
      rcases Option.map_eq_some_iff.mp hread with ⟨⟨later, last⟩, hlater, heq⟩
      cases heq
      simp only [List.cons_append, readText, hnumber, hvalid, if_true,
        ih hlater, Option.map_some]
  | case5 => cases hread
  | case6 a b c d number hnumber hinvalid e f g h behind paired hpaired ih =>
      rcases Option.map_eq_some_iff.mp hread with ⟨⟨later, last⟩, hlater, heq⟩
      cases heq
      simp only [List.cons_append, readText, hnumber, hinvalid, if_false,
        hpaired, ih hlater, Option.map_some]
  | case7 => cases hread
  | case8 => cases hread
  | case9 c behind hnotu meant hmeant ih =>
      rcases Option.map_eq_some_iff.mp hread with ⟨⟨later, last⟩, hlater, heq⟩
      cases heq
      rw [List.cons_append, List.cons_append, readText_short hmeant,
        ih hlater]
      rfl
  | case10 => cases hread
  | case11 c behind hquote _ _ hplain ih =>
      rcases Option.map_eq_some_iff.mp hread with ⟨⟨later, last⟩, hlater, heq⟩
      cases heq
      rw [List.cons_append, readText_plain hquote hplain, ih hlater]
      rfl
theorem skipBlanks_append
    {text rest : List Char} {c : Char} (hskip : skipBlanks text = c :: rest)
    (more : List Char) : skipBlanks (text ++ more) = c :: (rest ++ more) := by
  rw [skipBlanks] at hskip ⊢
  rw [List.dropWhile_append, hskip]
  rfl

theorem readNat_append
    {text rest : List Char} {number : ℕ}
    (hread : readNat text = some (number, rest)) (hrest : rest ≠ [])
    (more : List Char) :
    readNat (text ++ more) = some (number, rest ++ more) := by
  simp only [readNat, Option.ite_none_left_eq_some, Option.some.injEq,
    Prod.mk.injEq] at hread
  rcases hread with ⟨hwhole, hnumber, hbehind⟩
  have hdrop : (text ++ more).dropWhile Char.isDigit = rest ++ more := by
    rw [List.dropWhile_append, hbehind, if_neg]
    simpa using hrest
  have htake : (text ++ more).takeWhile Char.isDigit =
      text.takeWhile Char.isDigit := by
    rw [List.takeWhile_append, if_neg]
    intro hlength
    have hsplit := congrArg List.length
      (@List.takeWhile_append_dropWhile Char Char.isDigit text)
    rw [List.length_append, hbehind, hlength] at hsplit
    exact hrest (List.length_eq_zero_iff.mp (by omega))
  obtain ⟨c, behind, rfl⟩ := List.exists_cons_of_ne_nil hrest
  rw [hbehind] at hwhole
  simp only [readNat, hdrop, htake]
  rw [if_neg, hnumber]
  exact hwhole

theorem readInt_append
    {text rest : List Char} {value : ℤ}
    (hread : readInt text = some (value, rest)) (hrest : rest ≠ [])
    (more : List Char) :
    readInt (text ++ more) = some (value, rest ++ more) := by
  unfold readInt at hread
  split at hread
  next behind =>
    split at hread
    next number later hnat =>
      rw [Option.some.injEq, Prod.mk.injEq] at hread
      rcases hread with ⟨rfl, rfl⟩
      rw [List.cons_append, readInt, readNat_append hnat hrest]
    next => cases hread
  next hminus =>
    rcases Option.map_eq_some_iff.mp hread with ⟨⟨number, later⟩, hnat, heq⟩
    cases heq
    cases text with
    | nil => cases hnat
    | cons c behind =>
        have hmore := readNat_append hnat hrest more
        rw [List.cons_append] at hmore ⊢
        rw [readInt, hmore]
        · rfl
        · intro rest heq
          exact hminus behind (by rw [(List.cons.inj heq).1])

theorem exists_cons_of_readInt
    {text rest : List Char} {value : ℤ}
    (hread : readInt text = some (value, rest)) :
    ∃ c behind, text = c :: behind ∧ (c = '-' ∨ c.isDigit = true) := by
  cases text with
  | nil => cases hread
  | cons c behind =>
      refine ⟨c, behind, rfl, ?_⟩
      by_cases hminus : c = '-'
      · exact Or.inl hminus
      · right
        rw [readInt] at hread
        · rcases Option.map_eq_some_iff.mp hread with ⟨read, hnat, _⟩
          simp only [readNat, Option.ite_none_left_eq_some] at hnat
          by_contra hdigit
          apply hnat.1
          left
          rw [List.takeWhile_cons, if_neg hdigit]
        · intro rest heq
          exact hminus (List.cons.inj heq).1

theorem exists_token_of_readValue
    {fuel : ℕ} {text rest : List Char} {value : Json}
    (hread : readValue fuel text = some (value, rest)) :
    ∃ c behind, skipBlanks text = c :: behind := by
  cases fuel with
  | zero => cases hread
  | succ fuel =>
      cases hskip : skipBlanks text with
      | nil =>
          rw [readValue, hskip] at hread
          cases hread
      | cons c behind => exact ⟨c, behind, rfl⟩

theorem exists_token_of_readItems
    {fuel : ℕ} {text rest : List Char} {items : List Json}
    (hread : readItems fuel text = some (items, rest)) :
    ∃ c behind, skipBlanks text = c :: behind := by
  cases fuel with
  | zero => cases hread
  | succ fuel =>
      rw [readItems] at hread
      split at hread
      next => cases hread
      next item later hitem => exact exists_token_of_readValue hitem

theorem exists_token_of_readFields
    {fuel : ℕ} {text rest : List Char} {fields : List (String × Json)}
    (hread : readFields fuel text = some (fields, rest)) :
    ∃ behind, skipBlanks text = '"' :: behind := by
  cases fuel with
  | zero => cases hread
  | succ fuel =>
      rw [readFields] at hread
      split at hread
      next behind hskip => exact ⟨behind, hskip⟩
      next => cases hread

theorem readValue_succ_append
    {fuel fuel' : ℕ}
    (hitems : ∀ text items rest, readItems fuel text = some (items, rest) →
      ∀ more, readItems fuel' (text ++ more) = some (items, rest ++ more))
    (hfields : ∀ text fields rest,
      readFields fuel text = some (fields, rest) →
      ∀ more, readFields fuel' (text ++ more) = some (fields, rest ++ more))
    {text rest : List Char} {value : Json}
    (hread : readValue (fuel + 1) text = some (value, rest))
    (hends : rest ≠ [] ∨ ∀ number, value ≠ .int number) (more : List Char) :
    readValue (fuel' + 1) (text ++ more) = some (value, rest ++ more) := by
  rw [readValue] at hread
  split at hread
  next heq =>
    cases hread
    rw [readValue, skipBlanks_append heq]
    rfl
  next heq =>
    cases hread
    rw [readValue, skipBlanks_append heq]
    rfl
  next heq =>
    cases hread
    rw [readValue, skipBlanks_append heq]
    rfl
  next behind heq =>
    rcases Option.map_eq_some_iff.mp hread with ⟨⟨read, later⟩, htext, hsome⟩
    cases hsome
    rw [readValue, skipBlanks_append heq]
    simp only [readText_append htext, Option.map_some]
  next behind heq =>
    rw [readValue, skipBlanks_append heq]
    split at hread
    next later hclose =>
      cases hread
      simp only [skipBlanks_append hclose]
    next hnot =>
      rcases Option.map_eq_some_iff.mp hread with ⟨⟨items, later⟩, hlist, hsome⟩
      cases hsome
      obtain ⟨c, later, hskip⟩ := exists_token_of_readItems hlist
      simp only [skipBlanks_append hskip]
      split
      next hclose =>
        rw [(List.cons.inj hclose).1] at hskip
        exact absurd hskip (hnot _)
      next => rw [hitems _ _ _ hlist more, Option.map_some]
  next behind heq =>
    rw [readValue, skipBlanks_append heq]
    split at hread
    next later hclose =>
      cases hread
      simp only [skipBlanks_append hclose]
    next =>
      rcases Option.map_eq_some_iff.mp hread with
        ⟨⟨fields, later⟩, hlist, hsome⟩
      cases hsome
      obtain ⟨later, hskip⟩ := exists_token_of_readFields hlist
      simp only [skipBlanks_append hskip, hfields _ _ _ hlist more]
      rfl
  next =>
    rcases Option.map_eq_some_iff.mp hread with ⟨⟨number, later⟩, hint, hsome⟩
    cases hsome
    have hrest : later ≠ [] := by
      rcases hends with hrest | hother
      · exact hrest
      · exact absurd rfl (hother number)
    obtain ⟨c, behind, hskip, hc⟩ := exists_cons_of_readInt hint
    rw [hskip] at hint
    have hmore := readInt_append hint hrest more
    rw [List.cons_append] at hmore
    rw [readValue_number fuel' hc (skipBlanks_append hskip more), hmore]
    rfl

theorem readItems_succ_append
    {fuel fuel' : ℕ}
    (hvalue : ∀ text value rest, readValue fuel text = some (value, rest) →
      rest ≠ [] ∨ (∀ number, value ≠ .int number) →
      ∀ more, readValue fuel' (text ++ more) = some (value, rest ++ more))
    (hitems : ∀ text items rest, readItems fuel text = some (items, rest) →
      ∀ more, readItems fuel' (text ++ more) = some (items, rest ++ more))
    {text rest : List Char} {items : List Json}
    (hread : readItems (fuel + 1) text = some (items, rest))
    (more : List Char) :
    readItems (fuel' + 1) (text ++ more) = some (items, rest ++ more) := by
  rw [readItems] at hread
  split at hread
  next => cases hread
  next item later hitem =>
    have hlater : later ≠ [] := by
      rintro rfl
      cases hread
    rw [readItems, hvalue _ _ _ hitem (Or.inl hlater) more]
    simp only
    split at hread
    next last hskip =>
      cases hread
      simp only [skipBlanks_append hskip]
    next last hskip =>
      rcases Option.map_eq_some_iff.mp hread with
        ⟨⟨others, behind⟩, hlist, hsome⟩
      cases hsome
      simp only [skipBlanks_append hskip, hitems _ _ _ hlist more]
      rfl
    next => cases hread

theorem readFields_succ_append
    {fuel fuel' : ℕ}
    (hvalue : ∀ text value rest, readValue fuel text = some (value, rest) →
      rest ≠ [] ∨ (∀ number, value ≠ .int number) →
      ∀ more, readValue fuel' (text ++ more) = some (value, rest ++ more))
    (hfields : ∀ text fields rest,
      readFields fuel text = some (fields, rest) →
      ∀ more, readFields fuel' (text ++ more) = some (fields, rest ++ more))
    {text rest : List Char} {fields : List (String × Json)}
    (hread : readFields (fuel + 1) text = some (fields, rest))
    (more : List Char) :
    readFields (fuel' + 1) (text ++ more) = some (fields, rest ++ more) := by
  rw [readFields] at hread
  split at hread
  next behind hquote =>
    rw [readFields, skipBlanks_append hquote]
    simp only
    split at hread
    next => cases hread
    next key afterKey hkey =>
      rw [readText_append hkey more]
      simp only
      split at hread
      next afterColon hcolon =>
        rw [skipBlanks_append hcolon]
        simp only
        split at hread
        next => cases hread
        next value afterValue hread' =>
          have hafter : afterValue ≠ [] := by
            rintro rfl
            cases hread
          rw [hvalue _ _ _ hread' (Or.inl hafter) more]
          simp only
          split at hread
          next last hskip =>
            cases hread
            simp only [skipBlanks_append hskip]
          next last hskip =>
            rcases Option.map_eq_some_iff.mp hread with
              ⟨⟨others, final⟩, hlist, hsome⟩
            cases hsome
            simp only [skipBlanks_append hskip, hfields _ _ _ hlist more]
            rfl
          next => cases hread
      next => cases hread
  next => cases hread

/-- What has been read stays as it is when more fuel is given and more text
comes behind, unless it is a number at the end. -/
theorem read_append (fuel : ℕ) :
    (∀ text value rest, readValue fuel text = some (value, rest) →
      rest ≠ [] ∨ (∀ number, value ≠ .int number) →
      ∀ fuel' ≥ fuel, ∀ more,
        readValue fuel' (text ++ more) = some (value, rest ++ more)) ∧
    (∀ text items rest, readItems fuel text = some (items, rest) →
      ∀ fuel' ≥ fuel, ∀ more,
        readItems fuel' (text ++ more) = some (items, rest ++ more)) ∧
    (∀ text fields rest, readFields fuel text = some (fields, rest) →
      ∀ fuel' ≥ fuel, ∀ more,
        readFields fuel' (text ++ more) = some (fields, rest ++ more)) := by
  induction fuel with
  | zero =>
      refine ⟨?_, ?_, ?_⟩
      · intro text value rest hread
        cases hread
      · intro text items rest hread
        cases hread
      · intro text fields rest hread
        cases hread
  | succ fuel ih =>
      obtain ⟨hvalue, hitems, hfields⟩ := ih
      refine ⟨?_, ?_, ?_⟩
      · intro text value rest hread hends fuel' hfuel more
        obtain ⟨smaller, rfl⟩ : ∃ smaller, fuel' = smaller + 1 :=
          ⟨fuel' - 1, by omega⟩
        apply readValue_succ_append _ _ hread hends
        · intro text items rest hlist more
          exact hitems text items rest hlist smaller (by omega) more
        · intro text fields rest hlist more
          exact hfields text fields rest hlist smaller (by omega) more
      · intro text items rest hread fuel' hfuel more
        obtain ⟨smaller, rfl⟩ : ∃ smaller, fuel' = smaller + 1 :=
          ⟨fuel' - 1, by omega⟩
        apply readItems_succ_append _ _ hread
        · intro text value rest hitem hends more
          exact hvalue text value rest hitem hends smaller (by omega) more
        · intro text items rest hlist more
          exact hitems text items rest hlist smaller (by omega) more
      · intro text fields rest hread fuel' hfuel more
        obtain ⟨smaller, rfl⟩ : ∃ smaller, fuel' = smaller + 1 :=
          ⟨fuel' - 1, by omega⟩
        apply readFields_succ_append _ _ hread
        · intro text value rest hfield hends more
          exact hvalue text value rest hfield hends smaller (by omega) more
        · intro text fields rest hlist more
          exact hfields text fields rest hlist smaller (by omega) more

theorem isNumber_of_readValue
    {fuel : ℕ} {text rest : List Char} {number : ℤ}
    (hread : readValue fuel text = some (.int number, rest)) :
    ∃ c behind, skipBlanks text = c :: behind ∧
      (c = '-' ∨ c.isDigit = true) := by
  cases fuel with
  | zero => cases hread
  | succ fuel =>
      rw [readValue] at hread
      split at hread
      next => cases hread
      next => cases hread
      next => cases hread
      next =>
        rcases Option.map_eq_some_iff.mp hread with ⟨read, _, heq⟩
        cases heq
      next =>
        split at hread
        next => cases hread
        next =>
          rcases Option.map_eq_some_iff.mp hread with ⟨read, _, heq⟩
          cases heq
      next =>
        split at hread
        next => cases hread
        next =>
          rcases Option.map_eq_some_iff.mp hread with ⟨read, _, heq⟩
          cases heq
      next =>
        rcases Option.map_eq_some_iff.mp hread with ⟨read, hint, heq⟩
        obtain ⟨c, behind, hskip, hc⟩ := exists_cons_of_readInt hint
        exact ⟨c, behind, hskip, hc⟩

theorem exists_cons_write_of_ne_int
    {value : Json} (hvalue : ∀ number, value ≠ .int number) :
    ∃ c rest, write value = c :: rest ∧ isBlank c = false ∧
      ¬ (c = '-' ∨ c.isDigit = true) := by
  cases value with
  | null => exact ⟨'n', _, rfl, by decide, by decide⟩
  | bool value =>
      cases value with
      | false => exact ⟨'f', _, rfl, by decide, by decide⟩
      | true => exact ⟨'t', _, rfl, by decide, by decide⟩
  | int number => exact absurd rfl (hvalue number)
  | str text => exact ⟨'"', _, rfl, by decide, by decide⟩
  | arr items => exact ⟨'[', _, rfl, by decide, by decide⟩
  | obj fields => exact ⟨'{', _, rfl, by decide, by decide⟩

/-- Of what is written, no front but the whole is read as a value, unless it is
a number. -/
theorem read_of_cut
    {value : Json} (hvalue : ∀ number, value ≠ .int number)
    {cut behind : List Char} (hwhole : write value = cut ++ behind)
    (hbehind : behind ≠ []) : read (String.ofList cut) = none := by
  obtain ⟨c, others, hcons, hblank, hc⟩ := exists_cons_write_of_ne_int hvalue
  cases cut with
  | nil => rfl
  | cons first cut =>
      obtain rfl : c = first :=
        (List.cons.inj (hcons.symm.trans hwhole)).1
      rw [read, String.toList_ofList]
      cases hread : readValue ((c :: cut).length + 1) (c :: cut) with
      | none => rfl
      | some result =>
          obtain ⟨other, rest⟩ := result
          have hother : ∀ number, other ≠ .int number := by
            rintro number rfl
            obtain ⟨d, later, hskip, hd⟩ := isNumber_of_readValue hread
            rw [skipBlanks_cons hblank] at hskip
            exact hc ((List.cons.inj hskip).1 ▸ hd)
          have hlength : (c :: cut).length + 1 ≤ (write value).length := by
            have hpos := List.length_pos_of_ne_nil hbehind
            rw [hwhole, List.length_append]
            omega
          have hmore := (read_append _).1 _ _ _ hread (Or.inr hother)
            (write value).length hlength behind
          have hback := readValue_write value (write value).length []
            le_rfl ⟨by simp, by simp⟩
          rw [← hwhole] at hmore
          rw [List.append_nil, hmore, Option.some.injEq, Prod.mk.injEq,
            List.append_eq_nil_iff] at hback
          exact absurd hback.2.2 hbehind

end JsonText
