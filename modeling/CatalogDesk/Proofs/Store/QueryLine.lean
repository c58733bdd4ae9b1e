import CatalogDesk.Proofs.Text.Blank
import CatalogDesk.Proofs.Text.Octets
import CatalogDesk.Store.Browser

/-! # Query lines

    The query line of filters is their location.  Read again it gives the filters back, but
    for blanks around the values and blank characteristics (`ofQuery_toQuery`), so that
    writing what was read gives the same line (`toQuery_ofQuery_toQuery`), and filters have
    one line just when they are one but for that (`toQuery_tells_normal`).

    The proof follows the layers of the line: octets as written, names and values, pairs,
    and the line with its separators.  The separators are found again since no name or value
    as written has one. -/

namespace CatalogDesk

namespace FormEncoding

/-! ## Octets -/

/-- Is the character neither blank nor one with a meaning between names and values? -/
def isInner (c : Char) : Bool :=
  c != '&' && c != '=' && c != '?' && !Text.isBlank c

/-- How an octet is first read. -/
def readPlus (b : UInt8) : UInt8 :=
  if b = 0x2B then 0x20 else b

/-- The octets of an octet as written, when they are read. -/
def readBack (b : UInt8) : List UInt8 :=
  (Text.encodeChars (encodeOctet b)).map readPlus

/-- There are only 256 octets. -/
theorem forall_octet {p : UInt8 → Prop} [DecidablePred p]
    (h : ((List.range 256).all fun n => p (.ofNat n)) = true) (b : UInt8) : p b := by
  have hb := List.all_eq_true.mp h b.toNat (List.mem_range.mpr b.toNat_lt)
  rwa [decide_eq_true_eq, UInt8.ofNat_toNat] at hb

/-- An octet is read at once, or after `%`. -/
theorem readBack_cases (b : UInt8) :
    (b ≠ 0x25 ∧ readBack b = [b]) ∨
      readBack b = [0x25, .ofNat (upperHex (b.toNat / 16)).toNat,
        .ofNat (upperHex (b.toNat % 16)).toNat] :=
  forall_octet (p := fun b => (b ≠ 0x25 ∧ readBack b = [b]) ∨
    readBack b = [0x25, .ofNat (upperHex (b.toNat / 16)).toNat,
      .ofNat (upperHex (b.toNat % 16)).toNat]) (by decide +kernel) b

theorem isInner_encodeOctet (b : UInt8) : ∀ c ∈ encodeOctet b, isInner c = true :=
  List.all_eq_true.mp
    (forall_octet (p := fun b => (encodeOctet b).all isInner = true) (by decide +kernel) b)

theorem hexValue?_upperHex {n : Nat} (h : n < 16) :
    Json.hexValue? (Char.ofNat (UInt8.ofNat (upperHex n).toNat).toNat) = some n := by
  have hall : ∀ n < 16, Json.hexValue? (Char.ofNat (UInt8.ofNat (upperHex n).toNat).toNat) =
      some n := by decide
  exact hall n h

theorem unpercent_readBack (b : UInt8) (rest : List UInt8) :
    unpercent (readBack b ++ rest) = b :: unpercent rest := by
  have hlt := b.toNat_lt
  rcases readBack_cases b with ⟨hne, hread⟩ | hread
  · rw [hread, List.singleton_append, unpercent.eq_def]
    simp [hne]
  · have hdigits : b.toNat / 16 * 16 + b.toNat % 16 = b.toNat := by omega
    rw [hread, unpercent.eq_def]
    simp only [List.cons_append, List.nil_append, if_true,
      hexValue?_upperHex (n := b.toNat / 16) (by omega),
      hexValue?_upperHex (n := b.toNat % 16) (by omega), hdigits, UInt8.ofNat_toNat]

theorem unpercent_flatMap_readBack (bs : List UInt8) : unpercent (bs.flatMap readBack) = bs := by
  induction bs with
  | nil => rfl
  | cons b bs ih => rw [List.flatMap_cons, unpercent_readBack, ih]

/-! ## Names and values -/

theorem isInner_encodeChars (cs : List Char) : ∀ c ∈ encodeChars cs, isInner c = true := by
  intro c hc
  obtain ⟨b, -, hb⟩ := List.mem_flatMap.mp hc
  exact isInner_encodeOctet b c hb

theorem decodeChars_encodeChars (cs : List Char) : decodeChars (encodeChars cs) = cs := by
  -- each octet is written on its own, so what is written is read back octet by octet
  have hread : (Text.encodeChars (encodeChars cs)).map readPlus =
      (Text.encodeChars cs).flatMap readBack := by
    have hoctet (b : UInt8) :
        (encodeOctet b).flatMap (fun c => (Text.encodeChar c).map readPlus) = readBack b := by
      rw [readBack, Text.encodeChars, List.map_flatMap]
    simp only [encodeChars, Text.encodeChars, List.flatMap_assoc, List.map_flatMap, hoctet]
  have hdecode : decodeChars (encodeChars cs) =
      Text.decode (unpercent ((Text.encodeChars (encodeChars cs)).map readPlus)) := rfl
  rw [hdecode, hread, unpercent_flatMap_readBack, Text.decode_encodeChars]

/-! ## Pairs -/

theorem decodePair_encodePair (p : String × String) : decodePair (encodePair p) = p := by
  have hname : ∀ c ∈ encodeChars p.1.toList, decide (c ≠ '=') = true := by
    intro c hc
    have hinner := isInner_encodeChars p.1.toList c hc
    simp only [isInner, Bool.and_eq_true, bne_iff_ne] at hinner
    exact decide_eq_true hinner.1.1.2
  unfold decodePair encodePair
  rw [List.takeWhile_append_of_pos hname, List.dropWhile_append_of_pos hname]
  simp [decodeChars_encodeChars]

/-- Characters of a line that are not inner ones stand between names and values. -/
theorem mem_encodePair {p : String × String} {c : Char} (hc : c ∈ encodePair p) :
    isInner c = true ∨ c = '=' := by
  rcases List.mem_append.mp hc with hname | hvalue
  · exact .inl (isInner_encodeChars _ c hname)
  · rcases List.mem_cons.mp hvalue with rfl | hvalue
    · exact .inr rfl
    · exact .inl (isInner_encodeChars _ c hvalue)

theorem mem_encodePairs {ps : Pairs} {c : Char} (hc : c ∈ encodePairs ps) :
    isInner c = true ∨ c = '=' ∨ c = '&' := by
  induction ps using encodePairs.induct with
  | case1 => simp [encodePairs] at hc
  | case2 p => exact (mem_encodePair hc).imp_right .inl
  | case3 p q ps ih =>
    rcases List.mem_append.mp hc with hp | hrest
    · exact (mem_encodePair hp).imp_right .inl
    · rcases List.mem_cons.mp hrest with rfl | hrest
      · exact .inr (.inr rfl)
      · exact ih hrest

theorem ampersand_not_mem (p : String × String) : '&' ∉ encodePair p := by
  intro hmem
  rcases mem_encodePair hmem with h | h
  · exact absurd h (by decide)
  · exact absurd h (by decide)

theorem encodePair_ne_nil (p : String × String) : encodePair p ≠ [] := by
  simp [encodePair]

/-! ## Lines -/

theorem splitOn_of_not_mem {sep : Char} {piece : List Char} (h : sep ∉ piece) :
    splitOn sep piece = [piece] := by
  induction piece with
  | nil => rfl
  | cons c cs ih =>
    have hne : c ≠ sep := fun heq => h (heq ▸ List.mem_cons_self)
    rw [splitOn, ih fun hmem => h (List.mem_cons_of_mem c hmem)]
    simp [hne]

theorem splitOn_append {sep : Char} {piece : List Char} (h : sep ∉ piece) (rest : List Char) :
    splitOn sep (piece ++ sep :: rest) = piece :: splitOn sep rest := by
  induction piece with
  | nil => simp [splitOn]
  | cons c cs ih =>
    have hne : c ≠ sep := fun heq => h (heq ▸ List.mem_cons_self)
    rw [List.cons_append, splitOn, ih fun hmem => h (List.mem_cons_of_mem c hmem)]
    simp [hne]

theorem splitOn_encodePairs {ps : Pairs} (h : ps ≠ []) :
    splitOn '&' (encodePairs ps) = ps.map encodePair := by
  induction ps using encodePairs.induct with
  | case1 => exact absurd rfl h
  | case2 p => exact splitOn_of_not_mem (ampersand_not_mem p)
  | case3 p q ps ih =>
    rw [encodePairs, splitOn_append (ampersand_not_mem p), ih (List.cons_ne_nil q ps)]
    rfl

theorem decode_encode (ps : Pairs) : decode (encode ps) = ps := by
  unfold decode encode
  rw [String.toList_ofList]
  by_cases hps : ps = []
  · subst hps
    rfl
  · have hpieces : (ps.map encodePair).filter (· ≠ []) = ps.map encodePair := by
      rw [List.filter_eq_self]
      intro piece hpiece
      obtain ⟨p, -, rfl⟩ := List.mem_map.mp hpiece
      exact decide_eq_true (encodePair_ne_nil p)
    have hpairs : decodePair ∘ encodePair = id := funext decodePair_encodePair
    rw [splitOn_encodePairs hps, hpieces, List.map_map, hpairs, List.map_id]

end FormEncoding

/-! ## Filters -/

namespace Filters

/-- The filters without what their query line leaves out. -/
def normal (f : Filters) : Filters where
  q := Text.trim f.q
  minPrice := Text.trim f.minPrice
  maxPrice := Text.trim f.maxPrice
  channel := Text.trim f.channel
  characteristics := (f.characteristics.map Text.trim).filter (· ≠ "")

/-- Reading the pair of a field that is still empty gives it the trimmed value. -/
theorem foldl_trimmedPair {s : Filters → String → Filters} {name : String}
    (htake : ∀ f value, takePair f (name, value) = s f value) {f : Filters} (hf : s f "" = f)
    (value : String) : (trimmedPair name value).foldl takePair f = s f (Text.trim value) := by
  unfold trimmedPair
  split
  · rename_i hblank
    rw [hblank, hf]
    rfl
  · exact htake f (Text.trim value)

theorem foldl_characteristics (f : Filters) (values : List String) :
    (values.flatMap (trimmedPair "characteristic")).foldl takePair f =
      { f with characteristics :=
          f.characteristics ++ (values.map Text.trim).filter (· ≠ "") } := by
  induction values generalizing f with
  | nil => simp
  | cons value values ih =>
    rw [List.flatMap_cons, List.foldl_append, ih]
    unfold trimmedPair
    by_cases hblank : Text.trim value = ""
    · simp [hblank]
    · simp [hblank, takePair]

theorem foldl_pairs (f : Filters) : f.pairs.foldl takePair {} = f.normal := by
  have hq : (trimmedPair "q" f.q).foldl takePair {} = { q := f.normal.q } :=
    foldl_trimmedPair (s := fun f q => { f with q }) (fun _ _ => rfl) rfl f.q
  have hminPrice : (trimmedPair "min_price" f.minPrice).foldl takePair { q := f.normal.q } =
      { q := f.normal.q, minPrice := f.normal.minPrice } :=
    foldl_trimmedPair (s := fun f minPrice => { f with minPrice }) (fun _ _ => rfl) rfl f.minPrice
  have hmaxPrice : (trimmedPair "max_price" f.maxPrice).foldl takePair
      { q := f.normal.q, minPrice := f.normal.minPrice } =
      { q := f.normal.q, minPrice := f.normal.minPrice, maxPrice := f.normal.maxPrice } :=
    foldl_trimmedPair (s := fun f maxPrice => { f with maxPrice }) (fun _ _ => rfl) rfl f.maxPrice
  have hchannel : (trimmedPair "channel" f.channel).foldl takePair
      { q := f.normal.q, minPrice := f.normal.minPrice, maxPrice := f.normal.maxPrice } =
      { f.normal with characteristics := [] } :=
    foldl_trimmedPair (s := fun f channel => { f with channel }) (fun _ _ => rfl) rfl f.channel
  unfold pairs
  rw [List.foldl_append, List.foldl_append, List.foldl_append, List.foldl_append, hq, hminPrice,
    hmaxPrice, hchannel, foldl_characteristics]
  rfl

/-- No character of a query line is blank or a question mark. -/
theorem toQuery_plain (f : Filters) :
    ∀ c ∈ f.toQuery.toList, Text.isBlank c = false ∧ c ≠ '?' := by
  intro c hc
  rw [toQuery, FormEncoding.encode, String.toList_ofList] at hc
  rcases FormEncoding.mem_encodePairs hc with hinner | rfl | rfl
  · simp only [FormEncoding.isInner, Bool.and_eq_true, bne_iff_ne, Bool.not_eq_true'] at hinner
    exact ⟨hinner.2, hinner.1.2⟩
  · decide
  · decide

/-- Reading a query line gives back the filters, trimmed. -/
theorem ofQuery_toQuery (f : Filters) : ofQuery f.toQuery = f.normal := by
  have htrim : Text.trimChars f.toQuery.toList = f.toQuery.toList :=
    Text.trimChars_of_not_blank fun c hc => (f.toQuery_plain c hc).1
  have hmarks : f.toQuery.toList.dropWhile (· = '?') = f.toQuery.toList := by
    refine List.dropWhile_eq_self_iff.mpr fun hlt => ?_
    simpa using (f.toQuery_plain _ (List.getElem_mem hlt)).2
  simp only [ofQuery, htrim, hmarks, String.ofList_toList]
  rw [toQuery, FormEncoding.decode_encode, foldl_pairs]

theorem trimmedPair_trim (name value : String) :
    trimmedPair name (Text.trim value) = trimmedPair name value := by
  simp only [trimmedPair, Text.trim_trim]

theorem pairs_normal (f : Filters) : f.normal.pairs = f.pairs := by
  have hcharacteristics (values : List String) :
      ((values.map Text.trim).filter (· ≠ "")).flatMap (trimmedPair "characteristic") =
        values.flatMap (trimmedPair "characteristic") := by
    induction values with
    | nil => rfl
    | cons value values ih =>
      rw [List.map_cons, List.flatMap_cons, ← ih]
      by_cases hblank : Text.trim value = ""
      · simp [hblank, trimmedPair]
      · simp [hblank, trimmedPair_trim]
  simp only [pairs, normal, trimmedPair_trim, hcharacteristics]

theorem toQuery_normal (f : Filters) : f.normal.toQuery = f.toQuery := by
  rw [toQuery, toQuery, pairs_normal]

/-- A query line stays as it is when it is read and written again. -/
theorem toQuery_ofQuery_toQuery (f : Filters) : (ofQuery f.toQuery).toQuery = f.toQuery := by
  rw [ofQuery_toQuery, toQuery_normal]

/-- A query line tells the filters, but for what it leaves out: it is read back as the normal
    form of the filters, filters with one line have one normal form, and whatever text was
    read, the line of what it says is read and written again as it stands. -/
theorem toQuery_tells_normal :
    (∀ f : Filters, ofQuery f.toQuery = f.normal) ∧
      (∀ f g : Filters, f.toQuery = g.toQuery ↔ f.normal = g.normal) ∧
      ∀ text : String, (ofQuery (ofQuery text).toQuery).toQuery = (ofQuery text).toQuery := by
  refine ⟨ofQuery_toQuery, fun f g => ⟨fun hline => ?_, fun hnormal => ?_⟩,
    fun text => toQuery_ofQuery_toQuery (ofQuery text)⟩
  · rw [← ofQuery_toQuery f, hline, ofQuery_toQuery]
  · rw [← toQuery_normal f, hnormal, toQuery_normal]

/-- Signs of the line itself stand in values, and blanks around them are lost. -/
example : ofQuery ({ q := " a&b=?%+é ", characteristics := ["x", " ", "x"] } : Filters).toQuery =
    { q := "a&b=?%+é", characteristics := ["x", "x"] } := by
  rw [ofQuery_toQuery]
  decide +kernel

end Filters

/-! ## Locations -/

namespace History

/-- The history stands at the query line of the filters, and all its locations are query
    lines.  This is the invariant that makes a location tell its filters. -/
structure Written (h : History) (f : Filters) : Prop where
  current : h.current = f.toQuery
  entries : ∀ line ∈ h.entries, ∃ g : Filters, line = g.toQuery
  placed : h.index < h.entries.length

theorem written_new (f : Filters) : (new f.toQuery).Written f where
  current := rfl
  entries _ hline := ⟨f, List.mem_singleton.mp hline⟩
  placed := Nat.zero_lt_one

variable {h h' : History} {f : Filters}

theorem Written.push (hw : h.Written f) (g : Filters) : (h.push g.toQuery).Written g := by
  unfold History.push
  split
  -- the line is the current one, and its filters may be others that write the same
  · rename_i hsame
    exact ⟨hsame, hw.entries, hw.placed⟩
  · refine ⟨by simp [History.current], fun line hline => ?_, by simp⟩
    rcases List.mem_append.mp hline with hold | hnew
    · exact hw.entries line (List.mem_of_mem_take hold)
    · exact ⟨g, List.mem_singleton.mp hnew⟩

/-- At any place of the history the location tells filters of which it is the line. -/
theorem Written.moved (hw : h.Written f) {place : Nat} (hplace : place < h.entries.length) :
    ({ h with index := place } : History).Written
      (.ofQuery ({ h with index := place } : History).current) := by
  have hcurrent : ({ h with index := place } : History).current = h.entries[place] := by
    simp [History.current, hplace]
  obtain ⟨g, hg⟩ := hw.entries h.entries[place] (List.getElem_mem hplace)
  refine ⟨?_, hw.entries, hplace⟩
  rw [hcurrent, hg, Filters.toQuery_ofQuery_toQuery]

theorem Written.back? (hw : h.Written f) (hback : h.back? = some h') :
    h'.Written (.ofQuery h'.current) := by
  have hplaced := hw.placed
  unfold History.back? at hback
  split at hback
  · cases hback
    exact hw.moved (by omega)
  · cases hback

theorem Written.forward? (hw : h.Written f) (hforward : h.forward? = some h') :
    h'.Written (.ofQuery h'.current) := by
  unfold History.forward? at hforward
  split at hforward
  · rename_i hcan
    cases hforward
    exact hw.moved (of_decide_eq_true hcan)
  · cases hforward

end History

end CatalogDesk
