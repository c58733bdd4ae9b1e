import CatalogDesk.Proofs.Catalog.Fields

/-! # Records, written and read back

    A record may be spelled in many ways: as an object in any order or as a list of its
    fields, with fields missing or null, with prices under an older name, with instants in
    either form and at any offset.  It is written in one.  `records_read_back` says of every
    value that is read as a record that the record's written form is read as the same record
    when its instants are in years of four digits, and is not when they are not.

    There are three steps for each kind of record: which instants reading can give
    (`isInstant_of_decode`), what is found under the keys of the written form
    (`shows_encode`), and what the reader makes of that (`Shows.ofMembers_iff`). -/

namespace CatalogDesk

open Json Decode

/-! ## Characteristics -/

namespace Characteristic
variable {c : Characteristic} {m : Members}

/-- The instants of a record. -/
def instants (c : Characteristic) : List Timestamp :=
  c.createdAt.toList ++ c.updatedAt.toList

theorem forall_instants {p : Timestamp → Prop} : (∀ t ∈ c.instants, p t) ↔
    (∀ t ∈ c.createdAt, p t) ∧ ∀ t ∈ c.updatedAt, p t := by
  simp only [instants, List.mem_append, Option.mem_toList, Option.mem_def, or_imp, forall_and]

theorem dated_of_ofMembers (h : ofMembers m = .ok c) :
    Dated m "created_at" c.createdAt ∧ Dated m "updated_at" c.updatedAt := by
  simp only [ofMembers, bind_eq_ok_iff, pure, Except.pure, Except.ok.injEq] at h
  obtain ⟨createdAt, hcreated, _, -, _, -, _, -, updatedAt, hupdated, _, -, _, -, _, -, _, -,
    _, -, rfl⟩ := h
  exact ⟨⟨createdAt, hcreated, rfl⟩, ⟨updatedAt, hupdated, rfl⟩⟩

theorem isInstant_of_decode {v : Json} (h : decode v = .ok c) : ∀ t ∈ c.instants, t.IsInstant := by
  rw [forall_instants]
  rcases record_cases h with ⟨m, -, hmembers⟩ | ⟨xs, -, hitems⟩
  · obtain ⟨hcreated, hupdated⟩ := dated_of_ofMembers hmembers
    exact ⟨hcreated.isInstant, hupdated.isInstant⟩
  · simp only [ofItems, bind_eq_ok_iff, pure, Except.pure, Except.ok.injEq] at hitems
    obtain ⟨_, -, _, -, _, -, _, -, _, hcreated, _, hupdated, rfl⟩ := hitems
    exact ⟨isInstant_of_itemOr hcreated, isInstant_of_itemOr hupdated⟩

/-- The members show the record. -/
structure Shows (m : Members) (c : Characteristic) : Prop where
  id : Members.get? "id" m = some (.text c.id)
  name : Members.get? "name" m = some (.text c.name)
  value : Members.get? "value" m = some (.text c.value)
  unit : Members.get? "unit_of_measure" m = some c.unit.encode
  createdAt : Members.get? "created_at" m = c.createdAt.map fun t => .text t.text
  updatedAt : Members.get? "updated_at" m = c.updatedAt.map fun t => .text t.text

theorem shows_encode (c : Characteristic) : ∃ m, c.encode = .object m ∧ Shows m c := by
  refine ⟨_, rfl, ?_⟩
  -- under every key there is what was put there last, and no key is used twice
  simp only [List.foldl_append, List.foldl_cons, List.foldl_nil]
  constructor <;>
    simp [Members.get?_insert, Members.get?_encodeInstant, Members.get?]

/-- What is shown is read as the record, if its instants are. -/
theorem Shows.ofMembers_iff (h : Shows m c) :
    ofMembers m = .ok c ↔ ∀ t ∈ c.instants, Timestamp.ofText t.text = .ok t := by
  rw [forall_instants, ← dated_iff h.createdAt, ← dated_iff h.updatedAt]
  constructor
  · exact dated_of_ofMembers
  · rintro ⟨⟨createdAt, hcreated, hcreated'⟩, updatedAt, hupdated, hupdated'⟩
    simp only [ofMembers, hcreated, field?_of_get? h.id (text_text _),
      field?_of_get? h.name (text_text _), field?_of_get? h.unit c.unit.decode_encode, hupdated,
      field?_of_get? h.value (text_text _), require, bind, Except.bind, pure, Except.pure,
      hcreated', hupdated']

theorem decode_encode_iff (c : Characteristic) :
    decode c.encode = .ok c ↔ ∀ t ∈ c.instants, Timestamp.ofText t.text = .ok t := by
  obtain ⟨m, hencode, hshows⟩ := shows_encode c
  rw [hencode]
  exact hshows.ofMembers_iff

end Characteristic

/-! ## Specifications -/

namespace Specification
variable {s : Specification} {m : Members}

/-- The instants of a record. -/
def instants (s : Specification) : List Timestamp :=
  s.createdAt.toList ++ s.updatedAt.toList

theorem forall_instants {p : Timestamp → Prop} : (∀ t ∈ s.instants, p t) ↔
    (∀ t ∈ s.createdAt, p t) ∧ ∀ t ∈ s.updatedAt, p t := by
  simp only [instants, List.mem_append, Option.mem_toList, Option.mem_def, or_imp, forall_and]

theorem dated_of_ofMembers (h : ofMembers m = .ok s) :
    Dated m "created_at" s.createdAt ∧ Dated m "updated_at" s.updatedAt := by
  simp only [ofMembers, bind_eq_ok_iff, pure, Except.pure, Except.ok.injEq] at h
  obtain ⟨_, -, createdAt, hcreated, _, -, _, -, updatedAt, hupdated, _, -, _, -, rfl⟩ := h
  exact ⟨⟨createdAt, hcreated, rfl⟩, ⟨updatedAt, hupdated, rfl⟩⟩

theorem isInstant_of_decode {v : Json} (h : decode v = .ok s) : ∀ t ∈ s.instants, t.IsInstant := by
  rw [forall_instants]
  rcases record_cases h with ⟨m, -, hmembers⟩ | ⟨xs, -, hitems⟩
  · obtain ⟨hcreated, hupdated⟩ := dated_of_ofMembers hmembers
    exact ⟨hcreated.isInstant, hupdated.isInstant⟩
  · simp only [ofItems, bind_eq_ok_iff, pure, Except.pure, Except.ok.injEq] at hitems
    obtain ⟨_, -, _, -, _, -, _, hcreated, _, hupdated, rfl⟩ := hitems
    exact ⟨isInstant_of_itemOr hcreated, isInstant_of_itemOr hupdated⟩

/-- The members show the record. -/
structure Shows (m : Members) (s : Specification) : Prop where
  id : Members.get? "id" m = some (.text s.id)
  name : Members.get? "name" m = some (.text s.name)
  characteristicIds :
    Members.get? "characteristic_ids" m = some (encodeTexts s.characteristicIds)
  createdAt : Members.get? "created_at" m = s.createdAt.map fun t => .text t.text
  updatedAt : Members.get? "updated_at" m = s.updatedAt.map fun t => .text t.text

theorem shows_encode (s : Specification) : ∃ m, s.encode = .object m ∧ Shows m s := by
  refine ⟨_, rfl, ?_⟩
  simp only [List.foldl_append, List.foldl_cons, List.foldl_nil]
  constructor <;>
    simp [Members.get?_insert, Members.get?_encodeInstant, Members.get?]

/-- What is shown is read as the record, if its instants are. -/
theorem Shows.ofMembers_iff (h : Shows m s) :
    ofMembers m = .ok s ↔ ∀ t ∈ s.instants, Timestamp.ofText t.text = .ok t := by
  rw [forall_instants, ← dated_iff h.createdAt, ← dated_iff h.updatedAt]
  constructor
  · exact dated_of_ofMembers
  · rintro ⟨⟨createdAt, hcreated, hcreated'⟩, updatedAt, hupdated, hupdated'⟩
    simp only [ofMembers, field?_of_get? h.characteristicIds (list_encodeTexts _), hcreated,
      field?_of_get? h.id (text_text _), field?_of_get? h.name (text_text _), hupdated, require,
      bind, Except.bind, pure, Except.pure, Option.getD_some, hcreated', hupdated']

theorem decode_encode_iff (s : Specification) :
    decode s.encode = .ok s ↔ ∀ t ∈ s.instants, Timestamp.ofText t.text = .ok t := by
  obtain ⟨m, hencode, hshows⟩ := shows_encode s
  rw [hencode]
  exact hshows.ofMembers_iff

end Specification

/-! ## Offerings -/

namespace Offering
variable {o : Offering} {m : Members}

/-- The instants of a record. -/
def instants (o : Offering) : List Timestamp :=
  o.createdAt.toList ++ o.updatedAt.toList ++ o.publishedAt.toList ++ o.retiredAt.toList

theorem forall_instants {p : Timestamp → Prop} : (∀ t ∈ o.instants, p t) ↔
    (((∀ t ∈ o.createdAt, p t) ∧ ∀ t ∈ o.updatedAt, p t) ∧ ∀ t ∈ o.publishedAt, p t) ∧
      ∀ t ∈ o.retiredAt, p t := by
  simp only [instants, List.mem_append, Option.mem_toList, Option.mem_def, or_imp, forall_and]

theorem dated_of_ofMembers (h : ofMembers m = .ok o) :
    ((Dated m "created_at" o.createdAt ∧ Dated m "updated_at" o.updatedAt) ∧
      Dated m "published_at" o.publishedAt) ∧ Dated m "retired_at" o.retiredAt := by
  simp only [ofMembers, bind_eq_ok_iff, pure, Except.pure, Except.ok.injEq] at h
  obtain ⟨createdAt, hcreated, _, -, _, -, _, -, _, -, _, -, publishedAt, hpublished, retiredAt,
    hretired, _, -, _, -, updatedAt, hupdated, _, -, _, -, rfl⟩ := h
  exact ⟨⟨⟨⟨createdAt, hcreated, rfl⟩, ⟨updatedAt, hupdated, rfl⟩⟩,
    ⟨publishedAt, hpublished, rfl⟩⟩, ⟨retiredAt, hretired, rfl⟩⟩

theorem isInstant_of_decode {v : Json} (h : decode v = .ok o) : ∀ t ∈ o.instants, t.IsInstant := by
  rw [forall_instants]
  rcases record_cases h with ⟨m, -, hmembers⟩ | ⟨xs, -, hitems⟩
  · obtain ⟨⟨⟨hcreated, hupdated⟩, hpublished⟩, hretired⟩ := dated_of_ofMembers hmembers
    exact ⟨⟨⟨hcreated.isInstant, hupdated.isInstant⟩, hpublished.isInstant⟩, hretired.isInstant⟩
  · simp only [ofItems, bind_eq_ok_iff, pure, Except.pure, Except.ok.injEq] at hitems
    obtain ⟨_, -, _, -, _, -, _, -, _, -, _, -, _, -, _, hcreated, _, hupdated, _, hpublished,
      _, hretired, rfl⟩ := hitems
    exact ⟨⟨⟨isInstant_of_itemOr hcreated, isInstant_of_itemOr hupdated⟩,
      isInstant_of_itemOr hpublished⟩, isInstant_of_itemOr hretired⟩

/-- The members show the record; the older name of the prices is not used. -/
structure Shows (m : Members) (o : Offering) : Prop where
  id : Members.get? "id" m = some (.text o.id)
  name : Members.get? "name" m = some (.text o.name)
  description : Members.get? "description" m = some (.ofOption .text o.description)
  specificationIds : Members.get? "specification_ids" m = some (encodeTexts o.specificationIds)
  priceIds : Members.get? "price_ids" m = some (encodeTexts o.priceIds)
  olderName : Members.get? "pricing_ids" m = none
  channels : Members.get? "sales_channels" m = some (.list (o.channels.map SalesChannel.encode))
  status : Members.get? "lifecycle_status" m = some o.status.encode
  createdAt : Members.get? "created_at" m = o.createdAt.map fun t => .text t.text
  updatedAt : Members.get? "updated_at" m = o.updatedAt.map fun t => .text t.text
  publishedAt : Members.get? "published_at" m = o.publishedAt.map fun t => .text t.text
  retiredAt : Members.get? "retired_at" m = o.retiredAt.map fun t => .text t.text

theorem shows_encode (o : Offering) : ∃ m, o.encode = .object m ∧ Shows m o := by
  refine ⟨_, rfl, ?_⟩
  simp only [List.foldl_append, List.foldl_cons, List.foldl_nil]
  constructor <;>
    simp [Members.get?_insert, Members.get?_encodeInstant, Members.get?]

theorem Shows.priceField_eq (h : Shows m o) : priceField m = .ok (some o.priceIds) := by
  unfold priceField
  rw [field?_of_get? h.priceIds (list_encodeTexts _), h.olderName]
  rfl

/-- What is shown is read as the record, if its instants are. -/
theorem Shows.ofMembers_iff (h : Shows m o) :
    ofMembers m = .ok o ↔ ∀ t ∈ o.instants, Timestamp.ofText t.text = .ok t := by
  rw [forall_instants, ← dated_iff h.createdAt, ← dated_iff h.updatedAt,
    ← dated_iff h.publishedAt, ← dated_iff h.retiredAt]
  constructor
  · exact dated_of_ofMembers
  · rintro ⟨⟨⟨⟨createdAt, hcreated, hcreated'⟩, updatedAt, hupdated, hupdated'⟩,
      publishedAt, hpublished, hpublished'⟩, retiredAt, hretired, hretired'⟩
    simp only [ofMembers, hcreated, field?_of_get? h.description (nullable_text _),
      field?_of_get? h.id (text_text _), field?_of_get? h.status o.status.decode_encode,
      field?_of_get? h.name (text_text _), h.priceField_eq, hpublished, hretired,
      field?_of_get? h.channels (list_map SalesChannel.decode_encode _),
      field?_of_get? h.specificationIds (list_encodeTexts _), hupdated, require, bind, Except.bind,
      pure, Except.pure, Option.getD_some, Option.join_some, hcreated', hupdated', hpublished',
      hretired']

theorem decode_encode_iff (o : Offering) :
    decode o.encode = .ok o ↔ ∀ t ∈ o.instants, Timestamp.ofText t.text = .ok t := by
  obtain ⟨m, hencode, hshows⟩ := shows_encode o
  rw [hencode]
  exact hshows.ofMembers_iff

end Offering

/-! ## Every record -/

/-- Whatever value a record was read from, its written form is read as the same record if
    the years of its instants have four digits, and only then. -/
def ReadsBack {α : Type} (decode : Json → Result α) (encode : α → Json)
    (instants : α → List Timestamp) : Prop :=
  ∀ v a, decode v = .ok a → (decode (encode a) = .ok a ↔ ∀ t ∈ instants a, t.PlainYear)

/-- It is enough that reading gives instants, and that nothing else can be lost. -/
theorem readsBack_of {α : Type} {decode : Json → Result α} {encode : α → Json}
    {instants : α → List Timestamp}
    (hinstant : ∀ {a v}, decode v = .ok a → ∀ t ∈ instants a, t.IsInstant)
    (hwritten : ∀ a, decode (encode a) = .ok a ↔
      ∀ t ∈ instants a, Timestamp.ofText t.text = .ok t) :
    ReadsBack decode encode instants := by
  intro v a hread
  rw [hwritten]
  exact forall₂_congr fun t ht => (hinstant hread t ht).ofText_text_iff

/-- Characteristics, specifications and offerings are read back from what is written of
    them, however they were spelled. -/
theorem records_read_back :
    ReadsBack Characteristic.decode Characteristic.encode Characteristic.instants ∧
      ReadsBack Specification.decode Specification.encode Specification.instants ∧
      ReadsBack Offering.decode Offering.encode Offering.instants :=
  ⟨readsBack_of Characteristic.isInstant_of_decode Characteristic.decode_encode_iff,
    readsBack_of Specification.isInstant_of_decode Specification.decode_encode_iff,
    readsBack_of Offering.isInstant_of_decode Offering.decode_encode_iff⟩

/-! Spellings that the written form does not have. -/

/-- A list of fields, with a leap second that has no offset. -/
def listedSpeed : Json :=
  .list [.text "c1", .text "Speed", .text "500", .text "Mbps", .text "2016-12-31T23:59:60.5"]

def speed : Characteristic :=
  ⟨"c1", "Speed", "500", .mbps, some ⟨⟨2016, 12, 31⟩, 86399, 1500000000⟩, none⟩

/-- No characteristics, and an offset that leads into the year before. -/
def fiberAbroad : Json :=
  .object [("created_at", .text "2024-01-01T00:30:00.1234567899+01:00"), ("id", .text "s1"),
    ("name", .text "Fiber"), ("updated_at", .null)]

def fiber : Specification :=
  ⟨"s1", "Fiber", [], some ⟨⟨2023, 12, 31⟩, 84600, 123456789⟩, none⟩

/-- Prices under their older name, and no status. -/
def olderBundle : Json :=
  .object [("id", .text "o1"), ("name", .text "Bundle"), ("pricing_ids", .list [.text "p1"]),
    ("sales_channels", .list [.text "Retail"]), ("updated_at", .text "2024-02-28T23:30:00-02:45")]

def retailBundle : Offering :=
  ⟨"o1", "Bundle", none, [], ["p1"], [.retail], .draft, none,
    some ⟨⟨2024, 2, 29⟩, 8100, 0⟩, none, none⟩

/-- The first minutes of the year 0, an hour to the east. -/
def beforeYearZero : Json :=
  .object [("created_at", .text "0000-01-01T00:30:00+01:00"), ("id", .text "s0"),
    ("name", .text "First")]

def firstOfAll : Specification :=
  ⟨"s0", "First", [], some ⟨⟨-1, 12, 31⟩, 84600, 0⟩, none⟩

theorem records_read_back_spelled :
    (Characteristic.decode listedSpeed = .ok speed ∧
      Characteristic.decode speed.encode = .ok speed) ∧
    (Specification.decode fiberAbroad = .ok fiber ∧
      Specification.decode fiber.encode = .ok fiber) ∧
    (Offering.decode olderBundle = .ok retailBundle ∧
      Offering.decode retailBundle.encode = .ok retailBundle) ∧
    (Specification.decode beforeYearZero = .ok firstOfAll ∧
      Specification.decode firstOfAll.encode ≠ .ok firstOfAll) := by
  have hspeed : Characteristic.decode listedSpeed = .ok speed := by rfl
  have hfiber : Specification.decode fiberAbroad = .ok fiber := by rfl
  have hbundle : Offering.decode olderBundle = .ok retailBundle := by rfl
  have hfirst : Specification.decode beforeYearZero = .ok firstOfAll := by rfl
  obtain ⟨hcharacteristic, hspecification, hoffering⟩ := records_read_back
  refine ⟨⟨hspeed, ?_⟩, ⟨hfiber, ?_⟩, ⟨hbundle, ?_⟩, hfirst, ?_⟩
  · exact (hcharacteristic listedSpeed speed hspeed).mpr (by decide)
  · exact (hspecification fiberAbroad fiber hfiber).mpr (by decide)
  · exact (hoffering olderBundle retailBundle hbundle).mpr (by decide)
  · intro hback
    exact absurd ((hspecification beforeYearZero firstOfAll hfirst).mp hback) (by decide)

end CatalogDesk
