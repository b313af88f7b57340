import Mqtt.Topic

/-!
What a topic filter is, told by the places of its characters: the levels that the check goes
through one by one are only a way to tell where a wildcard stands.
-/

namespace Mqtt
set_option autoImplicit false

theorem Field.fits_eq_true_iff (s : String) : fits s = true ↔ s.utf8ByteSize ≤ 65535 :=
  decide_eq_true_iff

namespace Topic

variable {cs l rest : List Char} {w : Char}

/-! ### Levels -/

theorem levels_of_notMem (h : '/' ∉ l) : levels l = [l] := by
  induction l with
  | nil => rfl
  | cons c l ih =>
    rw [List.mem_cons, not_or] at h
    rw [levels, if_neg (Ne.symm h.1), ih h.2]

theorem levels_append (h : '/' ∉ l) (rest : List Char) :
    levels (l ++ '/' :: rest) = l :: levels rest := by
  induction l with
  | nil => exact if_pos rfl
  | cons c l ih =>
    rw [List.mem_cons, not_or] at h
    rw [List.cons_append, levels, if_neg (Ne.symm h.1), ih h.2]

theorem levels_ne_nil (cs : List Char) : levels cs ≠ [] := by
  cases cs with
  | nil => exact List.cons_ne_nil _ _
  | cons c cs =>
    rw [levels]
    split
    · exact List.cons_ne_nil _ _
    · split
      · exact List.cons_ne_nil _ _
      · exact List.cons_ne_nil _ _

/-- Characters are either one level or a level, a slash and the characters after it. -/
theorem levels_induction {P : List Char → Prop} (last : ∀ l, '/' ∉ l → P l)
    (next : ∀ l rest, '/' ∉ l → P rest → P (l ++ '/' :: rest)) (cs : List Char) : P cs := by
  by_cases hslash : '/' ∈ cs
  · obtain ⟨l, rest, hcs, hl⟩ := List.eq_append_cons_of_mem hslash
    have hshorter : rest.length < cs.length := by
      rw [hcs, List.length_append, List.length_cons]
      omega
    rw [hcs]
    exact next l rest hl (levels_induction last next rest)
  · exact last cs hslash
termination_by cs.length

/-! ### Places -/

/-- Whether a level starts behind these characters. -/
def StartsLevel (before : List Char) : Prop := before = [] ∨ before.getLast? = some '/'

/-- Whether a level ends in front of these characters. -/
def EndsLevel (after : List Char) : Prop := after = [] ∨ after.head? = some '/'

/-- Wherever the character stands, it is all of its level. -/
def IsWholeLevel (w : Char) (cs : List Char) : Prop :=
  ∀ before after, cs = before ++ w :: after → StartsLevel before ∧ EndsLevel after

/-- Nothing stands behind the character. -/
def IsOnlyLast (w : Char) (cs : List Char) : Prop :=
  ∀ before after, cs = before ++ w :: after → after = []

theorem startsLevel_iff_of_notMem (h : '/' ∉ l) : StartsLevel l ↔ l = [] := by
  refine or_iff_left fun hlast => h ?_
  exact List.mem_of_getLast? hlast

theorem endsLevel_iff_of_notMem (h : '/' ∉ l) : EndsLevel l ↔ l = [] := by
  refine or_iff_left fun hhead => h ?_
  exact List.mem_of_head? hhead

theorem startsLevel_append (l rest : List Char) :
    StartsLevel (l ++ '/' :: rest) ↔ StartsLevel rest := by
  cases rest with
  | nil => simp [StartsLevel]
  | cons c rest => simp [StartsLevel]

theorem endsLevel_append (h : '/' ∉ l) (rest : List Char) :
    EndsLevel (l ++ '/' :: rest) ↔ l = [] := by
  cases l with
  | nil => simp [EndsLevel]
  | cons c l =>
    have hc : c ≠ '/' := fun hc => h (by simp [hc])
    simp [EndsLevel, hc]

/-- A character other than the slash stands in the first level or behind it. -/
theorem append_eq_append_cons_iff (hw : w ≠ '/') {before after : List Char} :
    l ++ '/' :: rest = before ++ w :: after ↔
      (∃ tail, l = before ++ w :: tail ∧ after = tail ++ '/' :: rest)
        ∨ ∃ front, before = l ++ '/' :: front ∧ rest = front ++ w :: after := by
  constructor
  · intro h
    rcases List.append_eq_append_iff.mp h with ⟨front, hbefore, hcut⟩ | ⟨tail, hl, hcut⟩
    · cases front with
      | nil => exact absurd (List.cons.inj hcut).1.symm hw
      | cons c front =>
        obtain ⟨rfl, hrest⟩ := List.cons.inj hcut
        exact .inr ⟨front, hbefore, hrest⟩
    · cases tail with
      | nil => exact absurd (List.cons.inj hcut).1 hw
      | cons c tail =>
        obtain ⟨rfl, hafter⟩ := List.cons.inj hcut
        exact .inl ⟨tail, hl, hafter⟩
  · rintro (⟨tail, rfl, rfl⟩ | ⟨front, rfl, rfl⟩)
    · rw [List.append_assoc, List.cons_append]
    · rw [List.append_assoc, List.cons_append]

/-- Where there is no slash, the level is everything. -/
theorem isWholeLevel_of_notMem (h : '/' ∉ l) : IsWholeLevel w l ↔ (w ∈ l → l = [w]) := by
  constructor
  · intro hwhole hmem
    obtain ⟨before, after, rfl⟩ := List.append_of_mem hmem
    obtain ⟨hbefore, hafter⟩ := hwhole before after rfl
    simp only [List.mem_append, List.mem_cons, not_or] at h
    rw [(startsLevel_iff_of_notMem h.1).mp hbefore, (endsLevel_iff_of_notMem h.2.2).mp hafter]
    rfl
  · intro hone before after hl
    have hmem : w ∈ l := hl ▸ List.mem_append_right _ List.mem_cons_self
    rw [hone hmem] at hl
    cases before with
    | nil => exact ⟨.inl rfl, .inl (List.cons.inj hl).2.symm⟩
    | cons c before => exact absurd (List.cons.inj hl).2 (by simp)

theorem isWholeLevel_append (hw : w ≠ '/') (h : '/' ∉ l) :
    IsWholeLevel w (l ++ '/' :: rest) ↔ (w ∈ l → l = [w]) ∧ IsWholeLevel w rest := by
  rw [← isWholeLevel_of_notMem h]
  constructor
  · intro hwhole
    constructor
    · intro before after hl
      obtain ⟨hbefore, hafter⟩ := hwhole before (after ++ '/' :: rest)
        ((append_eq_append_cons_iff hw).mpr (.inl ⟨after, hl, rfl⟩))
      have hslash : '/' ∉ after := fun hmem =>
        h (hl ▸ List.mem_append_right _ (List.mem_cons_of_mem _ hmem))
      exact ⟨hbefore, .inl ((endsLevel_append hslash rest).mp hafter)⟩
    · intro before after hrest
      obtain ⟨hbefore, hafter⟩ := hwhole (l ++ '/' :: before) after
        ((append_eq_append_cons_iff hw).mpr (.inr ⟨before, rfl, hrest⟩))
      exact ⟨(startsLevel_append l before).mp hbefore, hafter⟩
  · rintro ⟨hfirst, hbehind⟩ before after hcut
    rcases (append_eq_append_cons_iff hw).mp hcut with ⟨tail, hl, rfl⟩ | ⟨front, rfl, hrest⟩
    · obtain ⟨hbefore, htail⟩ := hfirst before tail hl
      have hslash : '/' ∉ tail := fun hmem =>
        h (hl ▸ List.mem_append_right _ (List.mem_cons_of_mem _ hmem))
      exact ⟨hbefore, (endsLevel_append hslash rest).mpr
        ((endsLevel_iff_of_notMem hslash).mp htail)⟩
    · obtain ⟨hfront, hafter⟩ := hbehind front after hrest
      exact ⟨(startsLevel_append l front).mpr hfront, hafter⟩

theorem isOnlyLast_append (hw : w ≠ '/') :
    IsOnlyLast w (l ++ '/' :: rest) ↔ w ∉ l ∧ IsOnlyLast w rest := by
  constructor
  · intro hlast
    constructor
    · intro hmem
      obtain ⟨before, tail, hl⟩ := List.append_of_mem hmem
      have hnil := hlast before (tail ++ '/' :: rest)
        ((append_eq_append_cons_iff hw).mpr (.inl ⟨tail, hl, rfl⟩))
      exact List.append_ne_nil_of_right_ne_nil _ (List.cons_ne_nil _ _) hnil
    · intro before after hrest
      exact hlast (l ++ '/' :: before) after
        ((append_eq_append_cons_iff hw).mpr (.inr ⟨before, rfl, hrest⟩))
  · rintro ⟨hfirst, hbehind⟩ before after hcut
    rcases (append_eq_append_cons_iff hw).mp hcut with ⟨tail, hl, _⟩ | ⟨front, _, hrest⟩
    · exact absurd (hl ▸ List.mem_append_right _ List.mem_cons_self) hfirst
    · exact hbehind front after hrest

/-! ### Filters -/

theorem wildcardsStandAlone_cons (l : List Char) (ls : List (List Char)) :
    wildcardsStandAlone (l :: ls) = true ↔ ('+' ∈ l → l = ['+'])
      ∧ ('#' ∈ l → l = ['#'] ∧ ls = []) ∧ wildcardsStandAlone ls = true := by
  simp only [wildcardsStandAlone, Bool.and_eq_true, Bool.or_eq_true, Bool.not_eq_true',
    decide_eq_true_eq, List.isEmpty_iff, List.contains_eq_mem, decide_eq_false_iff_not,
    Decidable.imp_iff_not_or, and_assoc]

/-- What the check finds, level by level, is where the wildcards stand. -/
theorem wildcardsStandAlone_levels_iff (cs : List Char) :
    wildcardsStandAlone (levels cs) = true ↔
      IsWholeLevel '+' cs ∧ IsWholeLevel '#' cs ∧ IsOnlyLast '#' cs := by
  induction cs using levels_induction with
  | last l hl =>
    have hlast : ('#' ∈ l → l = ['#']) → IsOnlyLast '#' l := by
      intro hone before after hcut
      obtain ⟨_, hafter⟩ := (isWholeLevel_of_notMem hl).mpr hone before after hcut
      have hslash : '/' ∉ after := fun hmem =>
        hl (hcut ▸ List.mem_append_right _ (List.mem_cons_of_mem _ hmem))
      exact (endsLevel_iff_of_notMem hslash).mp hafter
    rw [levels_of_notMem hl, wildcardsStandAlone_cons, isWholeLevel_of_notMem hl,
      isWholeLevel_of_notMem hl]
    constructor
    · rintro ⟨hplus, hhash, -⟩
      exact ⟨hplus, fun hmem => (hhash hmem).1, hlast fun hmem => (hhash hmem).1⟩
    · rintro ⟨hplus, hhash, -⟩
      exact ⟨hplus, fun hmem => ⟨hhash hmem, rfl⟩, rfl⟩
  | next l rest hl ih =>
    have hplus : '+' ≠ '/' := by decide
    have hhash : '#' ≠ '/' := by decide
    rw [levels_append hl, wildcardsStandAlone_cons, ih, isWholeLevel_append hplus hl,
      isWholeLevel_append hhash hl, isOnlyLast_append hhash]
    constructor
    · rintro ⟨hplus, hhash, hplus', hhash', hlast'⟩
      have hnot : '#' ∉ l := fun hmem => levels_ne_nil rest (hhash hmem).2
      exact ⟨⟨hplus, hplus'⟩, ⟨fun hmem => absurd hmem hnot, hhash'⟩, hnot, hlast'⟩
    · rintro ⟨⟨hplus, hplus'⟩, ⟨_, hhash'⟩, hnot, hlast'⟩
      exact ⟨hplus, fun hmem => absurd hmem hnot, hplus', hhash', hlast'⟩

theorem isEmpty_eq_false_iff (s : String) : s.isEmpty = false ↔ 1 ≤ s.utf8ByteSize := by
  unfold String.isEmpty
  rw [beq_eq_false_iff_ne]
  omega

theorem isValidFilter_iff (s : String) :
    isValidFilter s = true ↔ 1 ≤ s.utf8ByteSize ∧ s.utf8ByteSize ≤ 65535 ∧ '\x00' ∉ s.toList
      ∧ IsWholeLevel '+' s.toList ∧ IsWholeLevel '#' s.toList ∧ IsOnlyLast '#' s.toList := by
  rw [← wildcardsStandAlone_levels_iff, ← isEmpty_eq_false_iff, ← Field.fits_eq_true_iff]
  simp only [isValidFilter, Bool.and_eq_true, Bool.not_eq_true', List.contains_eq_mem,
    decide_eq_false_iff_not]
  constructor
  · rintro ⟨⟨⟨hfits, hne⟩, hnull⟩, hwild⟩
    exact ⟨hne, hfits, hnull, hwild⟩
  · rintro ⟨hne, hfits, hnull, hwild⟩
    exact ⟨⟨⟨hfits, hne⟩, hnull⟩, hwild⟩

/-- Characters that are not there stand alone. -/
theorem isWholeLevel_of_absent (h : w ∉ cs) : IsWholeLevel w cs :=
  fun _ _ hcut => absurd (hcut ▸ List.mem_append_right _ List.mem_cons_self) h

theorem isOnlyLast_of_absent (h : w ∉ cs) : IsOnlyLast w cs :=
  fun _ _ hcut => absurd (hcut ▸ List.mem_append_right _ List.mem_cons_self) h

theorem isValid_iff (s : String) :
    isValid s = true ↔ 1 ≤ s.utf8ByteSize ∧ s.utf8ByteSize ≤ 65535 ∧ '\x00' ∉ s.toList
      ∧ '+' ∉ s.toList ∧ '#' ∉ s.toList := by
  rw [← isEmpty_eq_false_iff, ← Field.fits_eq_true_iff]
  simp only [isValid, Bool.and_eq_true, Bool.not_eq_true', List.any_eq_false, Bool.or_eq_true,
    decide_eq_true_eq, not_or]
  constructor
  · rintro ⟨⟨hfits, hne⟩, hnone⟩
    exact ⟨hne, hfits, fun h => (hnone _ h).2 rfl, fun h => (hnone _ h).1.1 rfl,
      fun h => (hnone _ h).1.2 rfl⟩
  · rintro ⟨hne, hfits, hnull, hplus, hhash⟩
    exact ⟨⟨hfits, hne⟩, fun c hc =>
      ⟨⟨fun h => hplus (h ▸ hc), fun h => hhash (h ▸ hc)⟩, fun h => hnull (h ▸ hc)⟩⟩

theorem isValid_iff_isValidFilter (s : String) :
    isValid s = true ↔ isValidFilter s = true ∧ '+' ∉ s.toList ∧ '#' ∉ s.toList := by
  rw [isValid_iff, isValidFilter_iff]
  constructor
  · rintro ⟨hne, hfits, hnull, hplus, hhash⟩
    exact ⟨⟨hne, hfits, hnull, isWholeLevel_of_absent hplus, isWholeLevel_of_absent hhash,
      isOnlyLast_of_absent hhash⟩, hplus, hhash⟩
  · rintro ⟨⟨hne, hfits, hnull, _⟩, hplus, hhash⟩
    exact ⟨hne, hfits, hnull, hplus, hhash⟩

theorem check_eq_ok_iff (s : String) : check s = .ok () ↔ isValid s = true := by
  unfold check
  split
  · exact iff_of_true rfl ‹_›
  · exact iff_of_false (fun h => by cases h) ‹_›

theorem checkFilter_eq_ok_iff (s : String) : checkFilter s = .ok () ↔ isValidFilter s = true := by
  unfold checkFilter
  split
  · exact iff_of_true rfl ‹_›
  · exact iff_of_false (fun h => by cases h) ‹_›

/-- A filter is one to 65535 bytes without a null character, in which a plus is always all of its
level and a number sign also all of what is left; a topic is a filter without wildcards. -/
theorem filter_grammar (s : String) :
    (checkFilter s = .ok () ↔
      1 ≤ s.utf8ByteSize ∧ s.utf8ByteSize ≤ 65535 ∧ '\x00' ∉ s.toList
        ∧ (∀ before after, s.toList = before ++ '+' :: after →
          StartsLevel before ∧ EndsLevel after)
        ∧ ∀ before after, s.toList = before ++ '#' :: after → StartsLevel before ∧ after = [])
    ∧ (check s = .ok () ↔ checkFilter s = .ok () ∧ '+' ∉ s.toList ∧ '#' ∉ s.toList) := by
  rw [check_eq_ok_iff, checkFilter_eq_ok_iff]
  refine ⟨?_, isValid_iff_isValidFilter s⟩
  rw [isValidFilter_iff]
  constructor
  · rintro ⟨hne, hfits, hnull, hplus, hhash, hlast⟩
    exact ⟨hne, hfits, hnull, hplus, fun before after hcut =>
      ⟨(hhash before after hcut).1, hlast before after hcut⟩⟩
  · rintro ⟨hne, hfits, hnull, hplus, hhash⟩
    exact ⟨hne, hfits, hnull, hplus,
      fun before after hcut => ⟨(hhash before after hcut).1, .inl (hhash before after hcut).2⟩,
      fun before after hcut => (hhash before after hcut).2⟩

end Topic
end Mqtt
