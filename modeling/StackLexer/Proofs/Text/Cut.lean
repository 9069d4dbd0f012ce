import StackLexer.Text

namespace StackLexer.Text

@[simp] theorem size_nil : size [] = 0 := rfl

@[simp] theorem size_cons (c : Char) (text : Text) : size (c :: text) = c.utf8Size + size text :=
  rfl

@[simp] theorem size_append (first second : Text) :
    size (first ++ second) = size first + size second := by
  induction first with
  | nil => simp
  | cons c first ih => simp only [List.cons_append, size_cons, ih]; omega

-- The cutting functions look at an offset as a successor; the size of a text that is not empty is
-- one, and the first character takes its part of it.
theorem exists_size_cons (c : Char) (text : Text) :
    ∃ n, size (c :: text) = n + 1 ∧ c.utf8Size ≤ n + 1 ∧ n + 1 - c.utf8Size = size text := by
  have hc := Char.utf8Size_pos c
  refine ⟨c.utf8Size + size text - 1, ?_, ?_, ?_⟩
  · rw [size_cons]; omega
  · omega
  · omega

theorem length_le_size (text : Text) : text.length ≤ size text := by
  induction text with
  | nil => exact Nat.le_refl _
  | cons c text ih =>
      have hc := Char.utf8Size_pos c
      simp only [List.length_cons, size_cons]
      omega

theorem size_pos {text : Text} (h : text ≠ []) : 0 < size text :=
  Nat.lt_of_lt_of_le (List.length_pos_iff.mpr h) (length_le_size text)

theorem size_eq_zero {text : Text} : size text = 0 ↔ text = [] := by
  constructor
  · intro h
    have hle := length_le_size text
    exact List.length_eq_zero_iff.mp (by omega)
  · rintro rfl
    rfl

theorem drop?_append (first second : Text) :
    (first ++ second).drop? (size first) = some second := by
  induction first with
  | nil => cases second <;> rfl
  | cons c first ih =>
      obtain ⟨n, hn, hle, hsub⟩ := exists_size_cons c first
      rw [hn, List.cons_append, drop?, if_pos hle, hsub, ih]

theorem drop?_eq_some {text rest : Text} {offset : Nat} :
    text.drop? offset = some rest ↔ ∃ first, text = first ++ rest ∧ size first = offset := by
  constructor
  · fun_induction drop? text offset with
    | case1 text => rintro ⟨⟩; exact ⟨[], rfl, rfl⟩
    | case2 => simp
    | case3 c text count hle ih =>
        intro h
        obtain ⟨first, rfl, hs⟩ := ih h
        exact ⟨c :: first, rfl, by simp only [size_cons]; omega⟩
    | case4 => simp
  · rintro ⟨first, rfl, rfl⟩
    exact drop?_append first rest

theorem take?_append (first second : Text) : (first ++ second).take? (size first) = some first := by
  induction first with
  | nil => cases second <;> rfl
  | cons c first ih =>
      obtain ⟨n, hn, hle, hsub⟩ := exists_size_cons c first
      rw [hn, List.cons_append, take?, if_pos hle, hsub, ih, Option.map_some]

-- An offset is a boundary exactly if the text splits there, so proofs about offsets become proofs
-- about texts put together.
theorem isBoundary_iff {text : Text} {offset : Nat} :
    text.isBoundary offset = true ↔ ∃ first rest, text = first ++ rest ∧ size first = offset := by
  simp only [isBoundary, Option.isSome_iff_exists, drop?_eq_some]
  constructor
  · rintro ⟨rest, first, h⟩
    exact ⟨first, rest, h⟩
  · rintro ⟨first, rest, h⟩
    exact ⟨rest, first, h⟩

theorem isBoundary_append (first rest : Text) : (first ++ rest).isBoundary (size first) = true :=
  isBoundary_iff.mpr ⟨first, rest, rfl, rfl⟩

-- A boundary past the end of a first part cuts the second part.
theorem exists_of_isBoundary_append {first second : Text} {offset : Nat}
    (hle : size first ≤ offset) (h : (first ++ second).isBoundary offset = true) :
    ∃ middle rest, second = middle ++ rest ∧ offset = size first + size middle := by
  obtain ⟨whole, rest, hwhole, rfl⟩ := isBoundary_iff.mp h
  clear h
  induction first generalizing whole with
  | nil => exact ⟨whole, rest, hwhole, by simp⟩
  | cons c first ih =>
      cases whole with
      | nil =>
          have hc := Char.utf8Size_pos c
          simp only [size_cons, size_nil] at hle
          omega
      | cons d whole =>
          simp only [List.cons_append, List.cons.injEq] at hwhole
          obtain ⟨rfl, hwhole⟩ := hwhole
          obtain ⟨middle, rest', hsecond, hsize⟩ := ih whole hwhole (by simpa using hle)
          refine ⟨middle, rest', hsecond, ?_⟩
          simp only [size_cons]
          omega

theorem slice?_append (first middle rest : Text) :
    (first ++ middle ++ rest).slice? ⟨size first, size first + size middle⟩ = some middle := by
  have hle : size first ≤ size first + size middle := Nat.le_add_right _ _
  have hsub : size first + size middle - size first = size middle := by omega
  simp only [slice?, if_pos hle, List.append_assoc, drop?_append, Option.bind_some, hsub,
    take?_append]

theorem take?_eq_some {text part : Text} {count : Nat} :
    text.take? count = some part ↔ ∃ rest, text = part ++ rest ∧ size part = count := by
  constructor
  · fun_induction take? text count generalizing part with
    | case1 text => rintro ⟨⟩; exact ⟨text, rfl, rfl⟩
    | case2 => simp
    | case3 c text count hle ih =>
        intro h
        obtain ⟨more, hmore, rfl⟩ := Option.map_eq_some_iff.mp h
        obtain ⟨rest, rfl, hs⟩ := ih hmore
        exact ⟨rest, rfl, by simp only [size_cons]; omega⟩
    | case4 => simp
  · rintro ⟨rest, rfl, rfl⟩
    exact take?_append part rest

-- Two ways to cut a text after the same number of bytes are the same.
theorem append_inj_of_size {first first' rest rest' : Text}
    (h : first ++ rest = first' ++ rest') (hsize : size first = size first') :
    first = first' ∧ rest = rest' := by
  have htake := take?_append first rest
  rw [h, hsize, take?_append] at htake
  obtain rfl := Option.some.inj htake
  exact ⟨rfl, List.append_cancel_left h⟩

theorem slice?_eq_some {text part : Text} {span : Span} :
    text.slice? span = some part ↔ ∃ first rest, text = first ++ part ++ rest ∧
      size first = span.start ∧ span.start + size part = span.stop := by
  constructor
  · intro h
    unfold slice? at h
    split at h
    · obtain ⟨rest, hdrop, hpart⟩ := Option.bind_eq_some_iff.mp h
      obtain ⟨first, rfl, hfirst⟩ := drop?_eq_some.mp hdrop
      obtain ⟨last, rfl, hsize⟩ := take?_eq_some.mp hpart
      exact ⟨first, last, (List.append_assoc ..).symm, hfirst, by omega⟩
    · contradiction
  · rintro ⟨first, rest, rfl, hfirst, hstop⟩
    obtain rfl : span = ⟨size first, size first + size part⟩ := by rw [hfirst, hstop]
    exact slice?_append first part rest

theorem slice?_size {text part : Text} {span : Span} (h : text.slice? span = some part) :
    span.start + size part = span.stop := by
  obtain ⟨first, rest, -, -, hstop⟩ := slice?_eq_some.mp h
  exact hstop

-- What lies behind a first part of a text starts with the part that is cut out there.
theorem slice?_behind {read text part : Text} :
    (read ++ text).slice? ⟨size read, size read + size part⟩ = some part ↔
      ∃ after, text = part ++ after := by
  rw [slice?_eq_some]
  constructor
  · rintro ⟨first, rest, htext, hfirst, -⟩
    rw [List.append_assoc] at htext
    obtain ⟨-, rfl⟩ := append_inj_of_size htext.symm hfirst
    exact ⟨rest, rfl⟩
  · rintro ⟨after, rfl⟩
    exact ⟨read, after, (List.append_assoc ..).symm, rfl, rfl⟩

theorem slice?_isSome {text : Text} {span : Span} (hstart : text.isBoundary span.start = true)
    (hle : span.start ≤ span.stop) (hstop : text.isBoundary span.stop = true) :
    ∃ part, text.slice? span = some part := by
  obtain ⟨start, stop⟩ := span
  obtain ⟨first, rest, rfl, rfl⟩ := isBoundary_iff.mp hstart
  obtain ⟨middle, last, rfl, rfl⟩ := exists_of_isBoundary_append hle hstop
  exact ⟨middle, by rw [← List.append_assoc, slice?_append]⟩

-- The inner span lies inside of the outer one, and can be cut out of the text.
structure Inside (text : Text) (outer inner : Span) : Prop where
  start : outer.start ≤ inner.start
  le : inner.start ≤ inner.stop
  stop : inner.stop ≤ outer.stop
  boundaries : text.isBoundary inner.start = true ∧ text.isBoundary inner.stop = true

theorem Inside.slice? {text : Text} {outer inner : Span} (h : text.Inside outer inner) :
    ∃ part, text.slice? inner = some part :=
  slice?_isSome h.boundaries.1 h.le h.boundaries.2

theorem placeFrom?_append (offset : Nat) (before : Option Char) (first rest : Text) :
    (first ++ rest).placeFrom? offset before (size first) =
      some ⟨offset + size first, first.getLast?.or before, rest⟩ := by
  induction first generalizing offset before with
  | nil => cases rest <;> simp [placeFrom?]
  | cons c first ih =>
      obtain ⟨n, hn, hle, hsub⟩ := exists_size_cons c first
      have hlast : (c :: first).getLast?.or before = first.getLast?.or (some c) := by
        cases first <;> simp [List.getLast?_cons]
      have hoffset : offset + size (c :: first) = offset + c.utf8Size + size first := by
        simp only [size_cons]
        omega
      rw [hlast, hoffset, hn, List.cons_append, placeFrom?, if_pos hle, hsub, ih]

theorem place?_append (first rest : Text) :
    (first ++ rest).place? (size first) = some ⟨size first, first.getLast?, rest⟩ := by
  simp [place?, placeFrom?_append]

-- A place is where a first part of the text ends.
theorem placeFrom?_eq_some {offset count : Nat} {before : Option Char} {text : Text} {place : Place}
    (h : text.placeFrom? offset before count = some place) :
    ∃ first, text = first ++ place.after ∧ size first = count ∧ place.offset = offset + count := by
  induction text generalizing offset count before with
  | nil =>
      cases count with
      | zero =>
          obtain rfl := Option.some.inj h
          exact ⟨[], rfl, rfl, rfl⟩
      | succ count => contradiction
  | cons c rest ih =>
      cases count with
      | zero =>
          obtain rfl := Option.some.inj h
          exact ⟨[], rfl, rfl, rfl⟩
      | succ count =>
          rw [placeFrom?] at h
          split at h
          · obtain ⟨first, hrest, hsize, hoffset⟩ := ih h
            refine ⟨c :: first, by rw [hrest, List.cons_append], ?_, ?_⟩
            · rw [size_cons, hsize]
              omega
            · omega
          · contradiction

theorem place?_eq_some {text : Text} {offset : Nat} {place : Place}
    (h : text.place? offset = some place) :
    ∃ first, text = first ++ place.after ∧ size first = offset ∧ place.offset = offset := by
  obtain ⟨first, htext, hsize, hoffset⟩ := placeFrom?_eq_some h
  exact ⟨first, htext, hsize, hoffset.trans (Nat.zero_add offset)⟩

theorem place?_offset {text : Text} {offset : Nat} {place : Place}
    (h : text.place? offset = some place) : place.offset = offset := by
  obtain ⟨-, -, -, hoffset⟩ := place?_eq_some h
  exact hoffset

end StackLexer.Text
