import Untranslated.Text.Blank

/-!
# Slices

Every position in a text is a byte offset, and only the offsets that fall
between two characters can be cut at.  This module says what the partial
operations on offsets mean in terms of plain concatenation: a text can be cut at
an offset exactly when that is the size of some front of it, and a range selects
a part exactly when the text is that part with a front and a back around it.
-/

namespace Untranslated.Text

variable {text front back middle : Text} {offset start stop : Nat}

theorem dropBytes?_eq_some_iff :
    dropBytes? text offset = some back ↔
      ∃ front, text = front ++ back ∧ byteSize front = offset := by
  constructor
  · intro hdrop
    induction text, offset using dropBytes?.induct with
    | case1 chars =>
        simp only [dropBytes?, Option.some.injEq] at hdrop
        exact ⟨[], by simp [hdrop]⟩
    | case2 count => simp [dropBytes?] at hdrop
    | case3 char chars count hfits ih =>
        rw [dropBytes?, if_pos hfits] at hdrop
        obtain ⟨front, htext, hsize⟩ := ih hdrop
        refine ⟨char :: front, by simp [htext], ?_⟩
        rw [byteSize_cons, hsize]
        omega
    | case4 char chars count hfits => simp [dropBytes?, hfits] at hdrop
  · rintro ⟨front, rfl, rfl⟩
    exact dropBytes?_byteSize front back

theorem takeBytes?_eq_some_iff :
    takeBytes? text offset = some front ↔
      ∃ back, text = front ++ back ∧ byteSize front = offset := by
  constructor
  · intro htake
    induction text, offset using takeBytes?.induct generalizing front with
    | case1 chars =>
        simp only [takeBytes?, Option.some.injEq] at htake
        exact ⟨chars, by simp [← htake]⟩
    | case2 count => simp [takeBytes?] at htake
    | case3 char chars count hfits ih =>
        rw [takeBytes?, if_pos hfits] at htake
        obtain ⟨rest, hrest, rfl⟩ := Option.map_eq_some_iff.mp htake
        obtain ⟨back, htext, hsize⟩ := ih hrest
        refine ⟨back, by simp [htext], ?_⟩
        rw [byteSize_cons, hsize]
        omega
    | case4 char chars count hfits => simp [takeBytes?, hfits] at htake
  · rintro ⟨back, rfl, rfl⟩
    exact takeBytes?_byteSize front back

/-- A text has only one front of a given size, because no character is empty. -/
theorem append_inj_of_byteSize {front' back' : Text}
    (htext : front ++ back = front' ++ back')
    (hsize : byteSize front = byteSize front') :
    front = front' ∧ back = back' := by
  have hfront := takeBytes?_byteSize front back
  have hback := dropBytes?_byteSize front back
  rw [htext, hsize, takeBytes?_byteSize] at hfront
  rw [htext, hsize, dropBytes?_byteSize] at hback
  exact ⟨(Option.some.inj hfront).symm, (Option.some.inj hback).symm⟩

/-- Of two fronts of a text, the smaller one starts the larger one. -/
theorem exists_append_of_byteSize_le {front' back' : Text}
    (htext : front ++ back = front' ++ back')
    (hsize : byteSize front ≤ byteSize front') :
    ∃ between, front' = front ++ between ∧ back = between ++ back' := by
  rcases List.append_eq_append_iff.mp htext with
    ⟨between, hfront, hback⟩ | ⟨between, hfront, hback⟩
  · exact ⟨between, hfront, hback⟩
  · have hempty : byteSize between = 0 := by
      rw [hfront, byteSize_append] at hsize
      omega
    cases between with
    | nil => exact ⟨[], by simp_all⟩
    | cons char chars =>
        have hpositive := char.utf8Size_pos
        rw [byteSize_cons] at hempty
        omega

theorem slice?_eq_some_iff :
    slice? text ⟨start, stop⟩ = some middle ↔
      ∃ front back, text = front ++ (middle ++ back) ∧
        byteSize front = start ∧ byteSize front + byteSize middle = stop := by
  unfold slice?
  constructor
  · intro hslice
    split at hslice
    · rename_i horder
      obtain ⟨rest, hdrop, htake⟩ := Option.bind_eq_some_iff.mp hslice
      obtain ⟨front, rfl, hfront⟩ := dropBytes?_eq_some_iff.mp hdrop
      obtain ⟨back, rfl, hmiddle⟩ := takeBytes?_eq_some_iff.mp htake
      refine ⟨front, back, rfl, hfront, ?_⟩
      simp only at horder hmiddle hfront
      omega
    · cases hslice
  · rintro ⟨front, back, rfl, rfl, rfl⟩
    simp

theorem slice?_zero_eq_some_iff :
    slice? text ⟨0, stop⟩ = some front ↔
      ∃ back, text = front ++ back ∧ byteSize front = stop := by
  have hzero : slice? text ⟨0, stop⟩ = takeBytes? text stop := by
    simp [slice?, dropBytes?]
  rw [hzero, takeBytes?_eq_some_iff]

/-- The size of what a range selects is the distance between its ends. -/
theorem byteSize_of_slice? {range : Range}
    (hslice : slice? text range = some middle) :
    range.start + byteSize middle = range.stop := by
  obtain ⟨front, back, -, hstart, hstop⟩ := slice?_eq_some_iff.mp hslice
  rw [← hstart]
  exact hstop

/-- What two adjacent ranges select is what their union selects. -/
theorem slice?_append {middle' : Text} {stop' : Nat}
    (hleft : slice? text ⟨start, stop⟩ = some middle)
    (hright : slice? text ⟨stop, stop'⟩ = some middle') :
    slice? text ⟨start, stop'⟩ = some (middle ++ middle') := by
  obtain ⟨front, back, htext, rfl, hstop⟩ := slice?_eq_some_iff.mp hleft
  obtain ⟨front', back', htext', hstart', rfl⟩ := slice?_eq_some_iff.mp hright
  have hsize : Text.byteSize (front ++ middle) = Text.byteSize front' := by
    rw [byteSize_append, hstop, hstart']
  have hparts : (front ++ middle) ++ back = front' ++ (middle' ++ back') := by
    rw [← htext', htext, List.append_assoc]
  obtain ⟨rfl, rfl⟩ := append_inj_of_byteSize hparts hsize
  exact slice?_eq_some_iff.mpr ⟨front, back', by simp [htext], rfl, by
    rw [byteSize_append, byteSize_append, Nat.add_assoc]⟩

/-- A range inside a slice selects the same part as in the whole text. -/
theorem slice?_of_slice? {inner : Text} {start' stop' : Nat}
    (houter : slice? text ⟨start, stop⟩ = some middle)
    (hinner : slice? middle ⟨start', stop'⟩ = some inner) :
    slice? text ⟨start + start', start + stop'⟩ = some inner := by
  obtain ⟨front, back, htext, rfl, -⟩ := slice?_eq_some_iff.mp houter
  obtain ⟨before, after, rfl, rfl, rfl⟩ := slice?_eq_some_iff.mp hinner
  refine slice?_eq_some_iff.mpr ⟨front ++ before, after ++ back, ?_, ?_, ?_⟩
  · simp [htext]
  · simp
  · simp [Nat.add_assoc]

/-- A part of the text that lies inside a slice is a part of the slice. -/
theorem slice?_relative {inner : Text} {start' stop' : Nat}
    (houter : slice? text ⟨start, stop⟩ = some middle)
    (hinner : slice? text ⟨start', stop'⟩ = some inner)
    (hstart : start ≤ start') (hstop : stop' ≤ stop) :
    slice? middle ⟨start' - start, stop' - start⟩ = some inner := by
  obtain ⟨front, back, htext, rfl, rfl⟩ := slice?_eq_some_iff.mp houter
  obtain ⟨front', back', htext', rfl, rfl⟩ := slice?_eq_some_iff.mp hinner
  obtain ⟨before, rfl, hbefore⟩ :=
    exists_append_of_byteSize_le (htext.symm.trans htext') hstart
  rw [← List.append_assoc] at hbefore
  have hsize : Text.byteSize (before ++ inner) ≤ Text.byteSize middle := by
    rw [byteSize_append] at hstop ⊢
    omega
  obtain ⟨after, hmiddle, -⟩ := exists_append_of_byteSize_le hbefore.symm hsize
  refine slice?_eq_some_iff.mpr ⟨before, after, by simp [hmiddle], ?_, ?_⟩
  · simp
  · rw [byteSize_append, Nat.add_assoc, Nat.add_sub_cancel_left]

end Untranslated.Text
