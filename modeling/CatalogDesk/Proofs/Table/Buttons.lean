import CatalogDesk.Table.Basic

/-! # The row of page numbers

    A table with many pages does not offer all their numbers.  Which ones it offers is
    decided for each page alone: whether it is the first or the last, and how far it is from
    the current one.  What the row looks like as a whole hangs on how these conditions
    overlap where the current page is near an end.

    A row is a climb from the first page to the last: from each number it goes to the next
    one, or by an ellipsis to one further away.  This is `Climbs`, and what can be said of a
    row step by step follows from it by induction.

    Main result: `pageButtons_lead` says that `Leads` holds of the row, whatever the page. -/

namespace CatalogDesk

namespace PageButton

/-! ## Rows -/

/-- The number on a button; an ellipsis has none. -/
def number? : PageButton → Option Nat
  | .page n => some n
  | .ellipsis => none

/-- The numbers of a row. -/
def numbers (row : List PageButton) : List Nat :=
  row.filterMap number?

/-- The row leads from the first page to the last one by way of the current one. -/
structure Leads (current total : Nat) (row : List PageButton) : Prop where
  first : row.head? = some (.page 1)
  last : row.getLast? = some (.page total)
  here : .page current ∈ row
  before : 1 < current → .page (current - 1) ∈ row
  behind : current < total → .page (current + 1) ∈ row
  increasing : (numbers row).Pairwise (· < ·)
  /-- Buttons side by side have numbers side by side. -/
  adjacent : ∀ a b, [.page a, .page b] <:+: row → b = a + 1
  /-- Between two buttons that follow one another is an ellipsis exactly if there are pages
      between them. -/
  gaps : ∀ a b, [a, b] <:+: numbers row → ([.page a, .ellipsis, .page b] <:+: row ↔ a + 2 ≤ b)
  /-- An ellipsis stands nowhere else. -/
  enclosed : ∀ front rear, row = front ++ .ellipsis :: rear →
    ∃ a b, front.getLast? = some (.page a) ∧ rear.head? = some (.page b) ∧ a + 2 ≤ b
  single : ¬ [.ellipsis, .ellipsis] <:+: row
  short : row.length ≤ 7

/-! ## Climbing from page to page -/

/-- The row goes from one page up to another. -/
inductive Climbs : Nat → Nat → List PageButton → Prop
  | stop (n : Nat) : Climbs n n [.page n]
  | next {n last : Nat} {row : List PageButton} (rest : Climbs (n + 1) last row) :
    Climbs n last (.page n :: row)
  | skip {n m last : Nat} {row : List PageButton} (far : n + 2 ≤ m) (rest : Climbs m last row) :
    Climbs n last (.page n :: .ellipsis :: row)

namespace Climbs

variable {first last : Nat} {row : List PageButton}

theorem starts (h : Climbs first last row) : ∃ rest, row = .page first :: rest := by
  cases h with
  | stop => exact ⟨[], rfl⟩
  | next => exact ⟨_, rfl⟩
  | skip => exact ⟨_, rfl⟩

theorem getLast?_eq (h : Climbs first last row) : row.getLast? = some (.page last) := by
  induction h with
  | stop n => rfl
  | next rest ih =>
    rw [List.getLast?_cons, ih]
    rfl
  | skip far rest ih =>
    rw [List.getLast?_cons, List.getLast?_cons, ih]
    rfl

theorem le_of_mem (h : Climbs first last row) : ∀ n ∈ numbers row, first ≤ n := by
  induction h with
  | stop n =>
    intro m hm
    obtain rfl : m = n := by simpa [numbers, number?] using hm
    exact Nat.le_refl _
  | next rest ih =>
    intro m hm
    rcases List.mem_cons.mp hm with rfl | hm
    · exact Nat.le_refl _
    · have hle := ih m hm
      omega
  | skip far rest ih =>
    intro m hm
    rcases List.mem_cons.mp hm with rfl | hm
    · exact Nat.le_refl _
    · have hle := ih m hm
      omega

theorem increasing (h : Climbs first last row) : (numbers row).Pairwise (· < ·) := by
  induction h with
  | stop n => exact List.pairwise_singleton _ _
  | next rest ih =>
    refine List.pairwise_cons.mpr ⟨?_, ih⟩
    intro m hm
    have hle := rest.le_of_mem m hm
    omega
  | skip far rest ih =>
    refine List.pairwise_cons.mpr ⟨?_, ih⟩
    intro m hm
    have hle := rest.le_of_mem m hm
    omega

theorem adjacent (h : Climbs first last row) {a b : Nat} (hside : [.page a, .page b] <:+: row) :
    b = a + 1 := by
  induction h with
  | stop n => simp [List.infix_cons_iff] at hside
  | @next n last row rest ih =>
    obtain ⟨more, rfl⟩ := rest.starts
    rcases List.infix_cons_iff.mp hside with hprefix | hlater
    · obtain ⟨ha, hb⟩ : a = n ∧ b = n + 1 := by simpa using hprefix
      rw [ha, hb]
    · exact ih hlater
  | skip far rest ih =>
    rcases List.infix_cons_iff.mp hside with hprefix | hlater
    · simp at hprefix
    · rcases List.infix_cons_iff.mp hlater with hprefix | hlater
      · simp at hprefix
      · exact ih hlater

/-- What is left out is said by an ellipsis. -/
theorem ellipsis_of_far (h : Climbs first last row) {a b : Nat}
    (hfollow : [a, b] <:+: numbers row) (hfar : a + 2 ≤ b) :
    [.page a, .ellipsis, .page b] <:+: row := by
  induction h with
  | stop n => simp [numbers, number?, List.infix_cons_iff] at hfollow
  | @next n last row rest ih =>
    obtain ⟨more, rfl⟩ := rest.starts
    rcases List.infix_cons_iff.mp hfollow with hprefix | hlater
    · -- the number that follows is the next one
      change [a, b] <+: n :: (n + 1) :: numbers more at hprefix
      obtain ⟨rfl, rfl⟩ : a = n ∧ b = n + 1 := by simpa using hprefix
      omega
    · exact List.infix_cons (ih hlater)
  | @skip n m last row far rest ih =>
    obtain ⟨more, rfl⟩ := rest.starts
    rcases List.infix_cons_iff.mp hfollow with hprefix | hlater
    · change [a, b] <+: n :: m :: numbers more at hprefix
      obtain ⟨rfl, rfl⟩ : a = n ∧ b = m := by simpa using hprefix
      have hstart : [.page a, .ellipsis, .page b] <+: .page a :: .ellipsis :: .page b :: more := by
        simp
      exact hstart.isInfix
    · exact List.infix_cons (List.infix_cons (ih hlater))

/-- An ellipsis stands between two buttons, and for what is left out. -/
theorem enclosed (h : Climbs first last row) {front rear : List PageButton}
    (hsplit : row = front ++ .ellipsis :: rear) :
    ∃ a b, front.getLast? = some (.page a) ∧ rear.head? = some (.page b) ∧ a + 2 ≤ b := by
  induction h generalizing front with
  | stop n =>
    cases front with
    | nil => simp at hsplit
    | cons c front => simp at hsplit
  | next rest ih =>
    cases front with
    | nil => simp at hsplit
    | cons c front =>
      obtain ⟨-, hrest⟩ := List.cons.inj hsplit
      obtain ⟨a, b, hfront, hrear⟩ := ih hrest
      refine ⟨a, b, ?_, hrear⟩
      rw [List.getLast?_cons, hfront]
      rfl
  | @skip n m last row far rest ih =>
    obtain ⟨more, hrow⟩ := rest.starts
    match front, hsplit with
    | [], hsplit => simp at hsplit
    | [c], hsplit =>
      obtain ⟨rfl, hrest⟩ := List.cons.inj hsplit
      obtain ⟨-, rfl⟩ := List.cons.inj hrest
      exact ⟨n, m, rfl, by rw [hrow]; rfl, far⟩
    | c :: d :: front, hsplit =>
      obtain ⟨-, hrest⟩ := List.cons.inj hsplit
      obtain ⟨-, hrest⟩ := List.cons.inj hrest
      obtain ⟨a, b, hfront, hrear⟩ := ih hrest
      refine ⟨a, b, ?_, hrear⟩
      rw [List.getLast?_cons, List.getLast?_cons, hfront]
      rfl

theorem far_of_ellipsis (h : Climbs first last row) {a b : Nat}
    (hbetween : [.page a, .ellipsis, .page b] <:+: row) : a + 2 ≤ b := by
  obtain ⟨front, rear, hrow⟩ := hbetween
  have hsplit : row = (front ++ [.page a]) ++ .ellipsis :: (.page b :: rear) := by
    simp [← hrow]
  obtain ⟨n, m, hfront, hrear, hfar⟩ := h.enclosed hsplit
  obtain rfl : a = n := by simpa using hfront
  obtain rfl : b = m := by simpa using hrear
  exact hfar

theorem single (h : Climbs first last row) : ¬ [.ellipsis, .ellipsis] <:+: row := by
  rintro ⟨front, rear, hrow⟩
  have hsplit : row = front ++ .ellipsis :: (.ellipsis :: rear) := by
    simp [← hrow]
  obtain ⟨n, m, -, hrear, -⟩ := h.enclosed hsplit
  simp at hrear

end Climbs

/-! ## What is offered around the current page -/

/-- The buttons in front of the one of a page. -/
def front : Nat → List PageButton
  | 0 => []
  | 1 => []
  | 2 => [.page 1]
  | 3 => [.page 1, .page 2]
  | n + 4 => [.page 1, .ellipsis, .page (n + 3)]

/-- The buttons behind the one of a page, if so many pages follow it. -/
def rear (current : Nat) : Nat → List PageButton
  | 0 => []
  | 1 => [.page (current + 1)]
  | 2 => [.page (current + 1), .page (current + 2)]
  | n + 3 => [.page (current + 1), .ellipsis, .page (current + (n + 3))]

theorem climbs_rear (current count : Nat) :
    Climbs current (current + count) (.page current :: rear current count) := by
  match count with
  | 0 => exact .stop current
  | 1 => exact .next (.stop (current + 1))
  | 2 => exact .next (.next (.stop (current + 2)))
  | n + 3 => exact .next (.skip (by omega) (.stop (current + (n + 3))))

theorem Climbs.front {current last : Nat} {row : List PageButton} (h : Climbs current last row)
    (hone : 1 ≤ current) : Climbs 1 last (PageButton.front current ++ row) := by
  match current with
  | 1 => exact h
  | 2 => exact .next h
  | 3 => exact .next (.next h)
  | n + 4 => exact .skip (by omega) (.next h)

theorem length_front_le (current : Nat) : (front current).length ≤ 3 := by
  unfold front
  split <;> simp

theorem length_rear_le (current count : Nat) : (rear current count).length ≤ 3 := by
  unfold rear
  split <;> simp

theorem mem_front {current : Nat} (h : 1 < current) : .page (current - 1) ∈ front current := by
  match current with
  | 2 => simp [front]
  | 3 => simp [front]
  | n + 4 => simp [front]

theorem mem_rear {current count : Nat} (h : 0 < count) :
    .page (current + 1) ∈ rear current count := by
  match count with
  | 1 => simp [rear]
  | 2 => simp [rear]
  | n + 3 => simp [rear]

theorem leads_around {current count : Nat} (hone : 1 ≤ current) :
    Leads current (current + count) (front current ++ .page current :: rear current count) := by
  have hclimbs := (climbs_rear current count).front hone
  constructor
  · obtain ⟨rest, hrow⟩ := hclimbs.starts
    rw [hrow]
    rfl
  · exact hclimbs.getLast?_eq
  · simp
  · intro hbefore
    exact List.mem_append_left _ (mem_front hbefore)
  · intro hbehind
    have hmem : .page (current + 1) ∈ rear current count := mem_rear (by omega)
    exact List.mem_append_right _ (List.mem_cons_of_mem _ hmem)
  · exact hclimbs.increasing
  · intro a b
    exact hclimbs.adjacent
  · intro a b hfollow
    exact ⟨hclimbs.far_of_ellipsis, hclimbs.ellipsis_of_far hfollow⟩
  · intro front rear
    exact hclimbs.enclosed
  · exact hclimbs.single
  · have hfront := length_front_le current
    have hrear := length_rear_le current count
    rw [List.length_append, List.length_cons]
    omega

/-! ## The row of a table -/

/-- What stands in the row for a page. -/
def place? (current total page : Nat) : Option PageButton :=
  let distance := (page - current) + (current - page)
  if page = 1 || page = total || distance ≤ 1 then some (.page page)
  else if distance = 2 then some .ellipsis
  else none

theorem place?_shown {current total page : Nat}
    (h : page = 1 ∨ page = total ∨ page ≤ current + 1 ∧ current ≤ page + 1) :
    place? current total page = some (.page page) := by
  have hshown : page = 1 || page = total || (page - current) + (current - page) ≤ 1 := by
    simp
    omega
  unfold place?
  rw [if_pos hshown]

theorem place?_inner {current total page : Nat} (hfirst : 1 < page) (hlast : page < total)
    (hfar : page + 2 ≤ current ∨ current + 2 ≤ page) :
    place? current total page =
      if page + 2 = current ∨ page = current + 2 then some .ellipsis else none := by
  have hshown : ¬ (page = 1 || page = total || (page - current) + (current - page) ≤ 1) := by
    simp
    omega
  have hdistance : (page - current) + (current - page) = 2 ↔
      page + 2 = current ∨ page = current + 2 := by
    omega
  unfold place?
  rw [if_neg hshown]
  simp only [hdistance]

/-- Pages that are further away than two leave no trace. -/
theorem filterMap_remote {current total : Nat} (first count : Nat) (hfirst : 1 < first)
    (hlast : first + count ≤ total) (hfar : first + count + 1 < current ∨ current + 2 < first) :
    (List.range' first count).filterMap (place? current total) = [] := by
  rw [List.filterMap_eq_nil_iff]
  intro page hpage
  rw [List.mem_range'_1] at hpage
  rw [place?_inner (by omega) (by omega) (by omega), if_neg (by omega)]

theorem filterMap_front {current total : Nat} (hone : 1 ≤ current) (hlast : current ≤ total) :
    (List.range' 1 (current - 1)).filterMap (place? current total) = front current := by
  match current with
  | 1 => rfl
  | 2 => simp [front, place?_shown]
  | 3 => simp [front, place?_shown, List.range'_succ]
  | n + 4 =>
    -- only the first page and the two nearest ones leave something in the row
    have hpages : List.range' 1 (n + 3) = [1] ++ List.range' 2 n ++ [n + 2, n + 3] := by
      have hends := List.range'_append_1 (s := 2) (m := n) (n := 2)
      rw [List.range'_succ, ← hends]
      simp [List.range'_succ, Nat.add_comm, Nat.add_left_comm]
    have hremote : (List.range' 2 n).filterMap (place? (n + 4) total) = [] :=
      filterMap_remote 2 n (by omega) (by omega) (.inl (by omega))
    have hellipsis : place? (n + 4) total (n + 2) = some .ellipsis := by
      rw [place?_inner (by omega) (by omega) (.inl (by omega)), if_pos (.inl rfl)]
    have hfirst : place? (n + 4) total 1 = some (.page 1) := place?_shown (.inl rfl)
    have hnear : place? (n + 4) total (n + 3) = some (.page (n + 3)) :=
      place?_shown (.inr (.inr (by omega)))
    show (List.range' 1 (n + 3)).filterMap _ = _
    rw [hpages, List.filterMap_append, List.filterMap_append, hremote]
    simp [hfirst, hellipsis, hnear, front]

theorem filterMap_rear {current : Nat} (hone : 1 ≤ current) (count : Nat) :
    (List.range' (current + 1) count).filterMap (place? current (current + count)) =
      rear current count := by
  match count with
  | 0 => rfl
  | 1 => simp [rear, place?_shown]
  | 2 =>
    have hnear : place? current (current + 2) (current + 1) = some (.page (current + 1)) :=
      place?_shown (.inr (.inr (by omega)))
    have hlast : place? current (current + 2) (current + 2) = some (.page (current + 2)) :=
      place?_shown (.inr (.inl rfl))
    have hpages : List.range' (current + 1) 2 = [current + 1, current + 2] := rfl
    simp [hpages, hnear, hlast, rear]
  | n + 3 =>
    have hpages : List.range' (current + 1) (n + 3) =
        [current + 1, current + 2] ++ List.range' (current + 3) n ++ [current + (n + 3)] := by
      have hends := List.range'_append_1 (s := current + 3) (m := n) (n := 1)
      rw [List.range'_succ, List.range'_succ, ← hends]
      simp [Nat.add_comm, Nat.add_left_comm]
    have hremote : (List.range' (current + 3) n).filterMap
        (place? current (current + (n + 3))) = [] :=
      filterMap_remote (current + 3) n (by omega) (by omega) (.inr (by omega))
    have hnear : place? current (current + (n + 3)) (current + 1) = some (.page (current + 1)) :=
      place?_shown (.inr (.inr (by omega)))
    have hellipsis : place? current (current + (n + 3)) (current + 2) = some .ellipsis := by
      rw [place?_inner (by omega) (by omega) (.inr (by omega)), if_pos (.inr rfl)]
    have hlast : place? current (current + (n + 3)) (current + (n + 3)) =
        some (.page (current + (n + 3))) :=
      place?_shown (.inr (.inl rfl))
    rw [hpages, List.filterMap_append, List.filterMap_append, hremote]
    simp [hnear, hellipsis, hlast, rear]

end PageButton

namespace Table

open PageButton

variable {α : Type}

/-- The row is put together from the current page and what is in front of it and behind. -/
theorem pageButtons_eq (t : Table α) (hone : 1 ≤ t.page) (hlast : t.page ≤ t.totalPages) :
    t.pageButtons =
      front t.page ++ .page t.page :: rear t.page (t.totalPages - t.page) := by
  have hpages : List.range' 1 t.totalPages =
      List.range' 1 (t.page - 1) ++ t.page :: List.range' (t.page + 1) (t.totalPages - t.page) := by
    have hsplit := List.range'_append_1 (s := 1) (m := t.page - 1) (n := t.totalPages - t.page + 1)
    have hcount : t.page - 1 + (t.totalPages - t.page + 1) = t.totalPages := by omega
    have hplace : 1 + (t.page - 1) = t.page := by omega
    rw [hcount, hplace, List.range'_succ] at hsplit
    exact hsplit.symm
  have htotal : t.page + (t.totalPages - t.page) = t.totalPages := by omega
  have hrear := filterMap_rear hone (t.totalPages - t.page)
  rw [htotal] at hrear
  have hhere : place? t.page t.totalPages t.page = some (.page t.page) :=
    place?_shown (.inr (.inr (by omega)))
  show (List.range' 1 t.totalPages).filterMap (place? t.page t.totalPages) = _
  rw [hpages, List.filterMap_append, List.filterMap_cons_some hhere, filterMap_front hone hlast,
    hrear]

/-- However many pages a table has, and whichever of them is the current one: the row of page
    numbers leads from the first page to the last by way of the current one and its
    neighbours, an ellipsis stands exactly where pages are left out, and the row is short. -/
theorem pageButtons_lead (t : Table α) (hone : 1 ≤ t.page) (hlast : t.page ≤ t.totalPages) :
    Leads t.page t.totalPages t.pageButtons := by
  have hleads : Leads t.page (t.page + (t.totalPages - t.page))
      (front t.page ++ .page t.page :: rear t.page (t.totalPages - t.page)) := leads_around hone
  have htotal : t.page + (t.totalPages - t.page) = t.totalPages := by omega
  rwa [htotal, ← t.pageButtons_eq hone hlast] at hleads

/-- The fourth of seven pages. -/
theorem pageButtons_lead_middle :
    let t := ((Table.new [] Json.text 1).setRecords ["a", "b", "c", "d", "e", "f", "g"]).setPage 4
    1 ≤ t.page ∧ t.page ≤ t.totalPages ∧ Leads t.page t.totalPages t.pageButtons := by
  intro t
  have hpage : t.page = 4 := by decide
  have hpages : t.totalPages = 7 := by decide
  have hone : 1 ≤ t.page := by omega
  have hlast : t.page ≤ t.totalPages := by omega
  exact ⟨hone, hlast, t.pageButtons_lead hone hlast⟩

example :
    let t := ((Table.new [] Json.text 1).setRecords ["a", "b", "c", "d", "e", "f", "g"]).setPage 4
    t.pageButtons = [.page 1, .ellipsis, .page 3, .page 4, .page 5, .ellipsis, .page 7] := by
  cbv

end Table

end CatalogDesk
