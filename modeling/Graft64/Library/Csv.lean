import Graft64.Library.Decimal

/-! Records of delimited fields, as a reader takes them apart that knows quotes and does not insist on them. -/

namespace Graft64.Library.Csv

/-- Where the reader stands, with the fields of the record that are complete and the one at hand. -/
inductive State
  | startRecord
  | eatNewline
  | startField (fields : List Str)
  | inField (fields : List Str) (field : Str)
  | inQuoted (fields : List Str) (field : Str)
  | quoteInQuoted (fields : List Str) (field : Str)

def endsRecord (c : ℕ) : State := if c = 10 then .startRecord else .eatNewline

def isLineEnd (c : ℕ) : Bool := c == 10 || c == 13

section

variable (delimiter : ℕ)

def feedField (fields : List Str) (c : ℕ) : State :=
  if c = 34 then .inQuoted fields []
  else if c = delimiter then .startField (fields ++ [[]])
  else .inField fields [c]

def feedPlain (fields : List Str) (field : Str) (c : ℕ) : List (List Str) × State :=
  if isLineEnd c then ([fields ++ [field]], endsRecord c)
  else if c = delimiter then ([], .startField (fields ++ [field]))
  else ([], .inField fields (field ++ [c]))

def feedRecord (c : ℕ) : List (List Str) × State :=
  if isLineEnd c then ([[]], endsRecord c) else ([], feedField delimiter [] c)

/-- The records that a character completes, and where the reader stands then. -/
def feed : State → ℕ → List (List Str) × State
  | .startRecord, c => feedRecord delimiter c
  | .eatNewline, c => if c = 10 then ([], .startRecord) else feedRecord delimiter c
  | .startField fields, c =>
    if isLineEnd c then ([fields ++ [[]]], endsRecord c) else ([], feedField delimiter fields c)
  | .inField fields field, c => feedPlain delimiter fields field c
  | .inQuoted fields field, c =>
    ([], if c = 34 then .quoteInQuoted fields field else .inQuoted fields (field ++ [c]))
  | .quoteInQuoted fields field, c =>
    if c = 34 then ([], .inQuoted fields (field ++ [c])) else feedPlain delimiter fields field c

def finish : State → List (List Str)
  | .startRecord | .eatNewline => []
  | .startField fields => [fields ++ [[]]]
  | .inField fields field | .inQuoted fields field | .quoteInQuoted fields field => [fields ++ [field]]

def rowsFrom : State → Str → List (List Str)
  | s, [] => finish s
  | s, c :: text => (feed delimiter s c).1 ++ rowsFrom (feed delimiter s c).2 text

/-- The records of a text; `none` when a field is longer than `limit`. -/
def rows (limit : ℕ) (text : Str) : Option (List (List Str)) :=
  if ∀ row ∈ rowsFrom delimiter .startRecord text, ∀ field ∈ row, field.length ≤ limit then
    some (rowsFrom delimiter .startRecord text)
  else none

end

def countFields (d : ℕ) (fields : List Str) : ℕ := (fields.map (List.count d)).sum

/-- The delimiters that a record stands for: those between its fields, and those inside of them. -/
def rowCount (d : ℕ) (row : List Str) : ℕ := row.length - 1 + countFields d row

def State.count (d : ℕ) : State → ℕ
  | .startRecord | .eatNewline => 0
  | .startField fields => fields.length + countFields d fields
  | .inField fields field | .inQuoted fields field | .quoteInQuoted fields field =>
    fields.length + countFields d fields + field.count d

def rowsCount (d : ℕ) (rows : List (List Str)) : ℕ := (rows.map (rowCount d)).sum

section

variable {d : ℕ}

@[simp] lemma countFields_append (fields fields' : List Str) :
    countFields d (fields ++ fields') = countFields d fields + countFields d fields' := by
  simp [countFields]

@[simp] lemma countFields_singleton (field : Str) : countFields d [field] = field.count d := by
  simp [countFields]

@[simp] lemma rowCount_snoc (fields : List Str) (field : Str) :
    rowCount d (fields ++ [field]) = fields.length + countFields d fields + field.count d := by
  simp [rowCount]
  omega

@[simp] lemma rowsCount_nil : rowsCount d [] = 0 := rfl

@[simp] lemma rowsCount_singleton (row : List Str) : rowsCount d [row] = rowCount d row := by
  simp [rowsCount]

lemma rowsCount_append (rows rows' : List (List Str)) :
    rowsCount d (rows ++ rows') = rowsCount d rows + rowsCount d rows' := by
  simp [rowsCount]

lemma count_endsRecord (c : ℕ) : (endsRecord c).count d = 0 := by
  rw [endsRecord]
  split_ifs <;> rfl

lemma count_snoc (field : Str) (c : ℕ) : (field ++ [c]).count d = field.count d + if c = d then 1 else 0 := by
  rw [List.count_append, List.count_singleton]
  simp

lemma feedField_count (hq : d ≠ 34) (fields : List Str) (c : ℕ) :
    (feedField d fields c).count d = fields.length + countFields d fields + if c = d then 1 else 0 := by
  by_cases hd : c = d
  · subst hd
    simp only [feedField, if_neg hq, if_true, State.count, countFields_append, countFields_singleton,
      List.length_append, List.length_singleton, List.count_nil]
    omega
  · rw [feedField, if_neg hd, if_neg hd]
    split_ifs <;> simp [State.count, hd]

lemma not_lineEnd {c : ℕ} (h10 : d ≠ 10) (h13 : d ≠ 13) (hc : isLineEnd c = true) : c ≠ d := by
  rintro rfl
  simp [isLineEnd, h10, h13] at hc

lemma feedPlain_count (h10 : d ≠ 10) (h13 : d ≠ 13) (fields : List Str) (field : Str) (c : ℕ) :
    rowsCount d (feedPlain d fields field c).1 + (feedPlain d fields field c).2.count d =
      fields.length + countFields d fields + field.count d + if c = d then 1 else 0 := by
  rw [feedPlain]
  by_cases hl : isLineEnd c = true
  · rw [if_pos hl, if_neg (not_lineEnd h10 h13 hl), rowsCount_singleton, rowCount_snoc, count_endsRecord]
  · by_cases hd : c = d
    · rw [if_neg hl, if_pos hd, if_pos hd]
      simp only [rowsCount_nil, State.count, countFields_append, countFields_singleton, List.length_append,
        List.length_singleton]
      omega
    · rw [if_neg hl, if_neg hd, if_neg hd]
      simp only [rowsCount_nil, State.count, count_snoc, if_neg hd]
      omega

lemma feedRecord_count (h10 : d ≠ 10) (h13 : d ≠ 13) (hq : d ≠ 34) (c : ℕ) :
    rowsCount d (feedRecord d c).1 + (feedRecord d c).2.count d = if c = d then 1 else 0 := by
  rw [feedRecord]
  by_cases hl : isLineEnd c = true
  · rw [if_pos hl, if_neg (not_lineEnd h10 h13 hl), rowsCount_singleton, count_endsRecord]
    rfl
  · rw [if_neg hl, feedField_count hq]
    simp [countFields]

lemma feed_count (h10 : d ≠ 10) (h13 : d ≠ 13) (hq : d ≠ 34) (s : State) (c : ℕ) :
    rowsCount d (feed d s c).1 + (feed d s c).2.count d = s.count d + if c = d then 1 else 0 := by
  cases s with
  | startRecord =>
    rw [feed, feedRecord_count h10 h13 hq]
    simp [State.count]
  | eatNewline =>
    by_cases hc : c = 10
    · have hd : c ≠ d := by
        rintro rfl
        exact h10 hc
      rw [feed, if_pos hc, if_neg hd]
      rfl
    · rw [feed, if_neg hc, feedRecord_count h10 h13 hq]
      simp [State.count]
  | startField fields =>
    rw [feed]
    by_cases hl : isLineEnd c = true
    · rw [if_pos hl, if_neg (not_lineEnd h10 h13 hl), rowsCount_singleton, rowCount_snoc, count_endsRecord]
      simp [State.count]
    · rw [if_neg hl, feedField_count hq]
      simp [State.count]
  | inField fields field => exact feedPlain_count h10 h13 fields field c
  | inQuoted fields field =>
    by_cases hc : c = 34
    · have hd : c ≠ d := by
        rintro rfl
        exact hq hc
      rw [feed, if_pos hc, if_neg hd]
      simp [State.count]
    · rw [feed, if_neg hc]
      simp only [rowsCount_nil, State.count, count_snoc]
      omega
  | quoteInQuoted fields field =>
    by_cases hc : c = 34
    · rw [feed, if_pos hc]
      simp only [rowsCount_nil, State.count, count_snoc]
      omega
    · rw [feed, if_neg hc]
      exact feedPlain_count h10 h13 fields field c

lemma finish_count (s : State) : rowsCount d (finish s) = s.count d := by
  cases s <;> simp [finish, State.count]

lemma rowsFrom_count (h10 : d ≠ 10) (h13 : d ≠ 13) (hq : d ≠ 34) (s : State) (text : Str) :
    rowsCount d (rowsFrom d s text) = s.count d + text.count d := by
  induction text generalizing s with
  | nil => exact finish_count s
  | cons c text ih =>
    have hc := feed_count h10 h13 hq s c
    have hcons : (c :: text).count d = text.count d + if c = d then 1 else 0 := by
      rw [List.count_cons]
      simp
    rw [rowsFrom, rowsCount_append, ih, hcons]
    omega

end

structure Plain (d : ℕ) (field : Str) : Prop where
  ne : field ≠ []
  quote : field.head? ≠ some 34
  clean : ∀ c ∈ field, c ≠ d ∧ isLineEnd c = false

def line (d : ℕ) (fields : List Str) : Str := [d].intercalate fields ++ [10]

section

variable {d : ℕ} {field : Str} {fields : List Str}

lemma rowsFrom_inField (hf : ∀ c ∈ field, c ≠ d ∧ isLineEnd c = false) (front : Str) (text : Str) :
    rowsFrom d (.inField fields front) (field ++ text) = rowsFrom d (.inField fields (front ++ field)) text := by
  induction field generalizing front with
  | nil => simp
  | cons c field ih =>
    obtain ⟨⟨hd, hl⟩, hf⟩ := List.forall_mem_cons.mp hf
    have hfeed : feed d (.inField fields front) c = ([], .inField fields (front ++ [c])) := by
      simp [feed, feedPlain, hl, hd]
    rw [List.cons_append, rowsFrom, hfeed, List.nil_append, ih hf]
    simp

lemma feedField_plain {c : ℕ} (hq : c ≠ 34) (hd : c ≠ d) : feedField d fields c = .inField fields [c] := by
  rw [feedField, if_neg hq, if_neg hd]

lemma rowsFrom_startField (h : Plain d field) (text : Str) :
    rowsFrom d (.startField fields) (field ++ text) = rowsFrom d (.inField fields field) text := by
  obtain ⟨c, field, rfl⟩ := List.exists_cons_of_ne_nil h.ne
  obtain ⟨⟨hd, hl⟩, hf⟩ := List.forall_mem_cons.mp h.clean
  have hq : c ≠ 34 := by simpa using h.quote
  have hfeed : feed d (.startField fields) c = ([], .inField fields [c]) := by
    simp [feed, hl, feedField_plain hq hd]
  rw [List.cons_append, rowsFrom, hfeed, List.nil_append, rowsFrom_inField hf]
  rfl

lemma rowsFrom_startRecord (h : Plain d field) (text : Str) :
    rowsFrom d .startRecord (field ++ text) = rowsFrom d (.inField [] field) text := by
  obtain ⟨c, field, rfl⟩ := List.exists_cons_of_ne_nil h.ne
  obtain ⟨⟨hd, hl⟩, hf⟩ := List.forall_mem_cons.mp h.clean
  have hq : c ≠ 34 := by simpa using h.quote
  have hfeed : feed d .startRecord c = ([], .inField [] [c]) := by
    simp [feed, feedRecord, hl, feedField_plain hq hd]
  rw [List.cons_append, rowsFrom, hfeed, List.nil_append, rowsFrom_inField hf]
  rfl

lemma rowsFrom_fields (h10 : d ≠ 10) (h13 : d ≠ 13) {rest : List Str} (hrest : ∀ f ∈ rest, Plain d f)
    (text : Str) :
    rowsFrom d (.inField fields field) (rest.flatMap (d :: ·) ++ 10 :: text) =
      (fields ++ field :: rest) :: rowsFrom d .startRecord text := by
  induction rest generalizing fields field with
  | nil =>
    have hfeed : feed d (.inField fields field) 10 = ([fields ++ [field]], .startRecord) := rfl
    rw [List.flatMap_nil, List.nil_append, rowsFrom, hfeed]
    rfl
  | cons f rest ih =>
    obtain ⟨hf, hrest⟩ := List.forall_mem_cons.mp hrest
    have hl : isLineEnd d = false := by simp [isLineEnd, h10, h13]
    have hfeed : feed d (.inField fields field) d = ([], .startField (fields ++ [field])) := by
      simp [feed, feedPlain, hl]
    rw [List.flatMap_cons, List.cons_append, List.cons_append, List.append_assoc, rowsFrom, hfeed, List.nil_append,
      rowsFrom_startField hf, ih hrest]
    simp

lemma line_cons (f : Str) (rest : List Str) : line d (f :: rest) = f ++ (rest.flatMap (d :: ·) ++ [10]) := by
  induction rest generalizing f with
  | nil => simp [line, List.intercalate]
  | cons g rest ih =>
    have hg := ih g
    rw [line] at hg ⊢
    rw [List.intercalate_cons_cons, List.append_assoc, List.append_assoc, hg]
    simp

lemma line_count (h10 : d ≠ 10) (row : List Str) : (line d row).count d = rowCount d row := by
  cases row with
  | nil => simp [line, rowCount, countFields, List.intercalate, Ne.symm h10]
  | cons f rest =>
    rw [line_cons]
    induction rest generalizing f with
    | nil => simp [rowCount, Ne.symm h10]
    | cons g rest ih =>
      have hg := ih g
      simp only [List.flatMap_cons, List.cons_append, List.append_assoc, List.count_append, List.count_cons_self,
        rowCount, countFields, List.map_cons, List.sum_cons, List.length_cons] at hg ⊢
      omega

lemma lines_count (h10 : d ≠ 10) (table : List (List Str)) :
    (table.flatMap (line d)).count d = rowsCount d table := by
  induction table with
  | nil => rfl
  | cons row table ih =>
    rw [List.flatMap_cons, List.count_append, line_count h10, ih]
    rfl

lemma rowsFrom_line (h10 : d ≠ 10) (h13 : d ≠ 13) {row : List Str} (hne : row ≠ []) (hrow : ∀ f ∈ row, Plain d f)
    (text : Str) : rowsFrom d .startRecord (line d row ++ text) = row :: rowsFrom d .startRecord text := by
  obtain ⟨f, rest, rfl⟩ := List.exists_cons_of_ne_nil hne
  obtain ⟨hf, hrest⟩ := List.forall_mem_cons.mp hrow
  rw [line_cons, List.append_assoc, List.append_assoc, rowsFrom_startRecord hf, List.singleton_append,
    rowsFrom_fields h10 h13 hrest]
  rfl

theorem rowsFrom_lines (h10 : d ≠ 10) (h13 : d ≠ 13) {table : List (List Str)}
    (h : ∀ row ∈ table, row ≠ [] ∧ ∀ f ∈ row, Plain d f) :
    rowsFrom d .startRecord (table.flatMap (line d)) = table := by
  induction table with
  | nil => rfl
  | cons row table ih =>
    obtain ⟨⟨hne, hrow⟩, h⟩ := List.forall_mem_cons.mp h
    rw [List.flatMap_cons, rowsFrom_line h10 h13 hne hrow, ih h]

end

def Within (P : ℕ → Prop) (row : List Str) : Prop := ∀ f ∈ row, ∀ c ∈ f, P c

def State.Within (P : ℕ → Prop) : State → Prop
  | .startRecord | .eatNewline => True
  | .startField fields => Csv.Within P fields
  | .inField fields field | .inQuoted fields field | .quoteInQuoted fields field =>
      Csv.Within P (fields ++ [field])

section

variable {P : ℕ → Prop} {d : ℕ} {fields : List Str} {field : Str}

lemma line_within (hd : P d) (h10 : P 10) {row : List Str} (h : Within P row) : ∀ c ∈ line d row, P c := by
  cases row with
  | nil => simpa [line, List.intercalate] using h10
  | cons f rest =>
    obtain ⟨hf, hrest⟩ := List.forall_mem_cons.mp h
    intro c hc
    rw [line_cons, List.mem_append, List.mem_append, List.mem_singleton] at hc
    rcases hc with hc | hc | rfl
    · exact hf c hc
    · obtain ⟨g, hg, hc⟩ := List.mem_flatMap.mp hc
      rcases List.mem_cons.mp hc with rfl | hc
      · exact hd
      · exact hrest g hg c hc
    · exact h10

lemma within_snoc : Within P (fields ++ [field]) ↔ Within P fields ∧ ∀ c ∈ field, P c := by
  simp [Within, or_imp, forall_and]

lemma within_endsRecord (c : ℕ) : (endsRecord c).Within P := by
  rw [endsRecord]
  split_ifs <;> trivial

lemma feedField_within (hf : Within P fields) {c : ℕ} (hc : P c) : (feedField d fields c).Within P := by
  rw [feedField]
  split_ifs
  · exact within_snoc.mpr ⟨hf, by simp⟩
  · exact within_snoc.mpr ⟨hf, by simp⟩
  · exact within_snoc.mpr ⟨hf, by simpa using hc⟩

lemma feedPlain_within (h : Within P (fields ++ [field])) {c : ℕ} (hc : P c) :
    (∀ row ∈ (feedPlain d fields field c).1, Within P row) ∧ (feedPlain d fields field c).2.Within P := by
  rw [feedPlain]
  split_ifs
  · exact ⟨by simpa using h, within_endsRecord c⟩
  · exact ⟨by simp, h⟩
  · refine ⟨by simp, ?_⟩
    obtain ⟨hfields, hfield⟩ := within_snoc.mp h
    refine within_snoc.mpr ⟨hfields, ?_⟩
    intro x hx
    rcases List.mem_append.mp hx with hx | hx
    · exact hfield x hx
    · rw [List.mem_singleton.mp hx]
      exact hc

lemma feedRecord_within {c : ℕ} (hc : P c) :
    (∀ row ∈ (feedRecord d c).1, Within P row) ∧ (feedRecord d c).2.Within P := by
  rw [feedRecord]
  split_ifs
  · exact ⟨by simp [Within], within_endsRecord c⟩
  · exact ⟨by simp, feedField_within (by simp [Within]) hc⟩

lemma feed_within {s : State} (hs : s.Within P) {c : ℕ} (hc : P c) :
    (∀ row ∈ (feed d s c).1, Within P row) ∧ (feed d s c).2.Within P := by
  have hmore (fields : List Str) (field : Str) (h : Within P (fields ++ [field])) :
      Within P (fields ++ [field ++ [c]]) := by
    obtain ⟨hfields, hfield⟩ := within_snoc.mp h
    refine within_snoc.mpr ⟨hfields, ?_⟩
    simpa [or_imp, forall_and] using ⟨hfield, hc⟩
  cases s with
  | startRecord => exact feedRecord_within hc
  | eatNewline =>
    rw [feed]
    split_ifs
    · exact ⟨by simp, trivial⟩
    · exact feedRecord_within hc
  | startField fields =>
    rw [feed]
    split_ifs
    · exact ⟨by simpa using within_snoc.mpr ⟨hs, by simp⟩, within_endsRecord c⟩
    · exact ⟨by simp, feedField_within hs hc⟩
  | inField fields field => exact feedPlain_within hs hc
  | inQuoted fields field =>
    refine ⟨by simp [feed], ?_⟩
    rw [feed]
    dsimp only
    split_ifs
    · exact hs
    · exact hmore fields field hs
  | quoteInQuoted fields field =>
    rw [feed]
    split_ifs
    · exact ⟨by simp, hmore fields field hs⟩
    · exact feedPlain_within hs hc

lemma finish_within {s : State} (hs : s.Within P) : ∀ row ∈ finish s, Within P row := by
  cases s with
  | startRecord | eatNewline => simp [finish]
  | startField fields => simpa [finish] using within_snoc.mpr ⟨hs, by simp⟩
  | inField fields field | inQuoted fields field | quoteInQuoted fields field =>
    intro row hr
    rw [List.mem_singleton.mp hr]
    exact hs

theorem rowsFrom_within {s : State} (hs : s.Within P) {text : Str} (h : ∀ c ∈ text, P c) :
    ∀ row ∈ rowsFrom d s text, Within P row := by
  induction text generalizing s with
  | nil => exact finish_within hs
  | cons c text ih =>
    obtain ⟨hc, h⟩ := List.forall_mem_cons.mp h
    obtain ⟨hrows, hs⟩ := feed_within (d := d) hs hc
    rw [rowsFrom, List.forall_mem_append]
    exact ⟨hrows, ih hs h⟩

end

end Graft64.Library.Csv
