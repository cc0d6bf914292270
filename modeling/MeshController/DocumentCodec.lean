import Mathlib.Tactic

/-!
# Records read from documents

A document is a tree of tables, lists and scalars.  A codec writes values as
documents and reads them back, and says which documents stand for a value;
exactly these are read as it.  Records are put together field by field: a
field may be left out where it has a default, the keys of a table come in any
order, and keys which belong to no field are ignored.
-/

namespace Documents

inductive Document where
  | text (value : String)
  | number (value : ℤ)
  | flag (value : Bool)
  | list (items : List Document)
  | table (entries : List (String × Document))

abbrev Table := List (String × Document)

def Table.get (entries : Table) (key : String) : Option Document :=
  entries.lookup key

/-- The same document but for the order of keys, and entries hidden by an
earlier one of their key. -/
inductive Alike : Document → Document → Prop where
  | text (value : String) : Alike (.text value) (.text value)
  | number (value : ℤ) : Alike (.number value) (.number value)
  | flag (value : Bool) : Alike (.flag value) (.flag value)
  | list {items others : List Document}
      (hitems : List.Forall₂ Alike items others) :
      Alike (.list items) (.list others)
  | table {entries others : Table}
      (hkeys : ∀ key,
        (entries.get key).isSome = (others.get key).isSome)
      (hvalues : ∀ key value other, entries.get key = some value →
        others.get key = some other → Alike value other) :
      Alike (.table entries) (.table others)

def Document.Scalar : Document → Prop
  | .text _ | .number _ | .flag _ => True
  | .list _ | .table _ => False

theorem Alike.eq_of_scalar
    {document other : Document} (halike : Alike document other)
    (hscalar : document.Scalar) : other = document := by
  cases halike with
  | text value => rfl
  | number value => rfl
  | flag value => rfl
  | list hitems => exact hscalar.elim
  | table hkeys hvalues => exact hscalar.elim

/-! ## Codecs -/

structure Codec (α : Type) where
  write : α → Option Document
  read : Document → Option α
  Says : α → Document → Prop
  says_of_write : ∀ {value document}, write value = some document →
    Says value document
  read_iff : ∀ {value document}, read document = some value ↔
    Says value document
  says_alike : ∀ {value document other}, Says value document →
    Alike document other → Says value other

theorem mem_of_get
    {entries : Table} {key : String} {value : Document}
    (hget : entries.get key = some value) : (key, value) ∈ entries := by
  obtain ⟨before, after, hentries, _⟩ := List.lookup_eq_some_iff.mp hget
  rw [hentries]
  simp

theorem Alike.refl : ∀ document : Document, Alike document document
  | .text value => .text value
  | .number value => .number value
  | .flag value => .flag value
  | .list items => by
      apply Alike.list
      rw [List.forall₂_same]
      intro item hmem
      exact Alike.refl item
  | .table entries => by
      apply Alike.table (fun _ => rfl)
      intro key value other hvalue hother
      rw [hvalue, Option.some.injEq] at hother
      subst hother
      have hpair : sizeOf (key, value) = 1 + sizeOf key + sizeOf value := rfl
      have hentry : sizeOf (key, value) < sizeOf entries :=
        List.sizeOf_lt_of_mem (mem_of_get hvalue)
      have hsize : sizeOf value < 1 + sizeOf entries := by omega
      exact Alike.refl value

/-- What was written is read back, whatever becomes of the order of keys. -/
theorem Codec.read_of_write
    {α : Type} (codec : Codec α) {value : α} {document other : Document}
    (hwrite : codec.write value = some document)
    (halike : Alike document other) : codec.read other = some value :=
  codec.read_iff.mpr (codec.says_alike (codec.says_of_write hwrite) halike)

/-- A scalar which stands for exactly one value. -/
def Codec.scalar {α : Type} (write : α → Option Document)
    (read : Document → Option α) (Says : α → Document → Prop)
    (hscalar : ∀ {value document}, Says value document → document.Scalar)
    (hwrite : ∀ {value document}, write value = some document →
      Says value document)
    (hread : ∀ {value document}, read document = some value ↔
      Says value document) : Codec α where
  write := write
  read := read
  Says := Says
  says_of_write := hwrite
  read_iff := hread
  says_alike := by
    intro value document other hstands halike
    rw [halike.eq_of_scalar (hscalar hstands)]
    exact hstands

def Codec.text : Codec String :=
  Codec.scalar (fun value => some (.text value))
    (fun document =>
      match document with
      | .text value => some value
      | _ => none)
    (fun value document => document = .text value)
    (by rintro value document rfl; trivial)
    (by intro value document hwrite; exact (Option.some.inj hwrite).symm)
    (by intro value document; cases document <;> simp)

@[simp] theorem read_text (value : String) :
    Codec.text.read (.text value) = some value := rfl

def Codec.flag : Codec Bool :=
  Codec.scalar (fun value => some (.flag value))
    (fun document =>
      match document with
      | .flag value => some value
      | _ => none)
    (fun value document => document = .flag value)
    (by rintro value document rfl; trivial)
    (by intro value document hwrite; exact (Option.some.inj hwrite).symm)
    (by intro value document; cases document <;> simp)

/-- A natural number, written while it is below `limit`. -/
def Codec.natural (limit : ℕ) : Codec ℕ :=
  Codec.scalar
    (fun value => if value < limit then some (.number value) else none)
    (fun document =>
      match document with
      | .number (.ofNat value) => some value
      | _ => none)
    (fun value document => document = .number value)
    (by rintro value document rfl; trivial)
    (by
      intro value document hwrite
      rw [Option.ite_none_right_eq_some, Option.some.injEq] at hwrite
      exact hwrite.2.symm)
    (by
      intro value document
      cases document with
      | number written =>
          cases written with
          | ofNat written => simp
          | negSucc written =>
              simp only [reduceCtorEq, Document.number.injEq]
      | text written => simp
      | flag written => simp
      | list items => simp
      | table entries => simp)

/-- Some values of one type stand for those of another. -/
def Codec.via {α β : Type} (codec : Codec α) (forth : β → α)
    (back : α → Option β)
    (hback : ∀ written value, back written = some value ↔
      written = forth value) : Codec β where
  write := fun value => codec.write (forth value)
  read := fun document => (codec.read document).bind back
  Says := fun value document => codec.Says (forth value) document
  says_of_write := codec.says_of_write
  read_iff := by
    intro value document
    simp only [Option.bind_eq_some_iff, hback, codec.read_iff,
      exists_eq_right]
  says_alike := codec.says_alike

/-- A choice which is written as its name. -/
def Codec.named {α : Type} (name : α → String) (choices : List α)
    (hall : ∀ value, value ∈ choices)
    (hnames : Function.Injective name) : Codec α :=
  Codec.scalar (fun value => some (.text (name value)))
    (fun document =>
      match document with
      | .text written => choices.find? fun value => name value = written
      | _ => none)
    (fun value document => document = .text (name value))
    (by rintro value document rfl; trivial)
    (by intro value document hwrite; exact (Option.some.inj hwrite).symm)
    (by
      intro value document
      cases document with
      | text written =>
          simp only [Document.text.injEq]
          constructor
          · intro hfound
            have hname := List.find?_some hfound
            exact (of_decide_eq_true hname).symm
          · rintro rfl
            cases hfound : choices.find? fun other =>
                name other = name value with
            | none =>
                have hnot := List.find?_eq_none.mp hfound value (hall value)
                simp at hnot
            | some other =>
                have hname := List.find?_some hfound
                rw [hnames (of_decide_eq_true hname)]
      | number written => simp
      | flag written => simp
      | list items => simp
      | table entries => simp)

/-- A name which says nothing but itself. -/
def Codec.constant (name : String) : Codec Unit :=
  Codec.named (fun _ => name) [()] (by simp) (fun _ _ _ => rfl)

/-- One of two, which no document can be taken for at once. -/
def Codec.orElse {α β : Type} (first : Codec α) (second : Codec β)
    (hapart : ∀ value other document, first.Says value document →
      ¬ second.Says other document) : Codec (α ⊕ β) where
  write := fun value =>
    match value with
    | .inl value => first.write value
    | .inr other => second.write other
  read := fun document =>
    ((first.read document).map Sum.inl).or
      ((second.read document).map Sum.inr)
  Says := fun value document =>
    match value with
    | .inl value => first.Says value document
    | .inr other => second.Says other document
  says_of_write := by
    intro value document hwrite
    cases value with
    | inl value => exact first.says_of_write hwrite
    | inr other => exact second.says_of_write hwrite
  read_iff := by
    intro value document
    cases hfirst : first.read document with
    | some read =>
        have hstands := first.read_iff.mp hfirst
        cases value with
        | inl value => simp [← first.read_iff, hfirst]
        | inr other =>
            have hnot := hapart read other document hstands
            simp [hnot]
    | none => cases value <;> simp [← first.read_iff, ← second.read_iff, hfirst]
  says_alike := by
    intro value document other hstands halike
    cases value with
    | inl value => exact first.says_alike hstands halike
    | inr value => exact second.says_alike hstands halike

/-! ### Lists -/

section Lists

variable {α : Type} (codec : Codec α)

theorem says_of_mapM_write
    {values : List α} {documents : List Document}
    (hwrite : values.mapM codec.write = some documents) :
    List.Forall₂ codec.Says values documents := by
  induction values generalizing documents with
  | nil =>
      rw [List.mapM_nil, Option.pure_def, Option.some.injEq] at hwrite
      exact hwrite ▸ .nil
  | cons value rest ih =>
      simp only [List.mapM_cons, Option.pure_def, Option.bind_eq_bind,
        Option.bind_eq_some_iff, Option.some.injEq] at hwrite
      obtain ⟨first, hfirst, later, hlater, rfl⟩ := hwrite
      exact .cons (codec.says_of_write hfirst) (ih hlater)

theorem mapM_read_iff {values : List α} {documents : List Document} :
    documents.mapM codec.read = some values ↔
      List.Forall₂ codec.Says values documents := by
  induction documents generalizing values with
  | nil =>
      rw [List.mapM_nil, Option.pure_def, Option.some.injEq,
        List.forall₂_nil_right_iff]
      exact eq_comm
  | cons document rest ih =>
      simp only [List.mapM_cons, Option.pure_def, Option.bind_eq_bind,
        Option.bind_eq_some_iff, Option.some.injEq,
        List.forall₂_cons_right_iff]
      constructor
      · rintro ⟨value, hvalue, later, hlater, rfl⟩
        exact ⟨value, later, codec.read_iff.mp hvalue, ih.mp hlater, rfl⟩
      · rintro ⟨value, later, hvalue, hlater, rfl⟩
        exact ⟨value, codec.read_iff.mpr hvalue, later, ih.mpr hlater, rfl⟩

theorem forall₂_says_alike
    {values : List α} {documents others : List Document}
    (hstands : List.Forall₂ codec.Says values documents)
    (halike : List.Forall₂ Alike documents others) :
    List.Forall₂ codec.Says values others := by
  induction hstands generalizing others with
  | nil =>
      cases halike
      exact .nil
  | cons hfirst _ ih =>
      cases halike with
      | cons hhead htail =>
          exact .cons (codec.says_alike hfirst hhead) (ih htail)

def Codec.list : Codec (List α) where
  write := fun values => (values.mapM codec.write).map Document.list
  read := fun document =>
    match document with
    | .list documents => documents.mapM codec.read
    | _ => none
  Says := fun values document =>
    ∃ documents, document = .list documents ∧
      List.Forall₂ codec.Says values documents
  says_of_write := by
    intro values document hwrite
    obtain ⟨documents, hdocuments, rfl⟩ := Option.map_eq_some_iff.mp hwrite
    exact ⟨documents, rfl, says_of_mapM_write codec hdocuments⟩
  read_iff := by
    intro values document
    cases document with
    | list documents => simp [mapM_read_iff]
    | text written => simp
    | number written => simp
    | flag written => simp
    | table entries => simp
  says_alike := by
    rintro values document other ⟨documents, rfl, hstands⟩ halike
    cases halike with
    | list hitems =>
        exact ⟨_, rfl, forall₂_says_alike codec hstands hitems⟩

end Lists

/-! ## Fields -/

/-- How a field appears under its key, if it appears at all. -/
structure Slot (α : Type) where
  write : α → Option (Option Document)
  read : Option Document → Option α
  Says : α → Option Document → Prop
  says_of_write : ∀ {value entry}, write value = some entry →
    Says value entry
  read_iff : ∀ {value entry}, read entry = some value ↔ Says value entry
  says_alike : ∀ {value document other}, Says value (some document) →
    Alike document other → Says value (some other)

namespace Slot

variable {α : Type} (codec : Codec α)

def required : Slot α where
  write := fun value => (codec.write value).map some
  read := fun entry => entry.bind codec.read
  Says := fun value entry =>
    ∃ document, entry = some document ∧ codec.Says value document
  says_of_write := by
    intro value entry hwrite
    obtain ⟨document, hdocument, rfl⟩ := Option.map_eq_some_iff.mp hwrite
    exact ⟨document, rfl, codec.says_of_write hdocument⟩
  read_iff := by
    intro value entry
    simp only [Option.bind_eq_some_iff, codec.read_iff]
  says_alike := by
    rintro value document other ⟨present, hpresent, hstands⟩ halike
    rw [← Option.some.inj hpresent] at hstands
    exact ⟨other, rfl, codec.says_alike hstands halike⟩

/-- A missing entry stands for the default. -/
def defaulted (default : α) : Slot α where
  write := fun value => (codec.write value).map some
  read := fun entry =>
    match entry with
    | none => some default
    | some document => codec.read document
  Says := fun value entry =>
    match entry with
    | none => value = default
    | some document => codec.Says value document
  says_of_write := by
    intro value entry hwrite
    obtain ⟨document, hdocument, rfl⟩ := Option.map_eq_some_iff.mp hwrite
    exact codec.says_of_write hdocument
  read_iff := by
    intro value entry
    cases entry with
    | none => simp [eq_comm]
    | some document => exact codec.read_iff
  says_alike := codec.says_alike

/-- What is absent is not written. -/
def optional : Slot (Option α) where
  write := fun value =>
    match value with
    | none => some none
    | some present => (codec.write present).map some
  read := fun entry =>
    match entry with
    | none => some none
    | some document => (codec.read document).map some
  Says := fun value entry =>
    match value, entry with
    | none, none => True
    | some present, some document => codec.Says present document
    | _, _ => False
  says_of_write := by
    intro value entry hwrite
    cases value with
    | none =>
        rw [← Option.some.inj hwrite]
        trivial
    | some present =>
        obtain ⟨document, hdocument, rfl⟩ := Option.map_eq_some_iff.mp hwrite
        exact codec.says_of_write hdocument
  read_iff := by
    intro value entry
    cases entry with
    | none => cases value <;> simp
    | some document => cases value <;> simp [codec.read_iff]
  says_alike := by
    intro value document other hstands halike
    cases value with
    | none => exact hstands.elim
    | some present => exact codec.says_alike hstands halike

end Slot

/-! ## Records -/

theorem get_append (entries others : Table) (key : String) :
    (entries ++ others).get key = (entries.get key).or (others.get key) :=
  List.lookup_append

/-- What a field adds to its table. -/
def entryOf (key : String) (entry : Option Document) : Table :=
  entry.toList.map fun document => (key, document)

theorem get_entryOf_self (key : String) (entry : Option Document) :
    (entryOf key entry).get key = entry := by
  cases entry with
  | none => rfl
  | some document => simp [entryOf, Table.get]

theorem get_entryOf_of_ne
    {key other : String} (hne : other ≠ key) (entry : Option Document) :
    (entryOf key entry).get other = none := by
  have hbeq : (other == key) = false := beq_eq_false_iff_ne.mpr hne
  cases entry with
  | none => rfl
  | some document => simp [entryOf, Table.get, List.lookup_cons, hbeq]

/-- The fields of `ρ` which have been listed so far; `β` is what is still to
be given the others. -/
structure Record (ρ β : Type) where
  Values : Type
  keys : List String
  fields : ρ → Values
  value : Values → β
  write : Values → Option Table
  read : Table → Option β
  Says : Values → Table → Prop
  says_of_write : ∀ {values entries}, write values = some entries →
    Says values entries
  within : ∀ {values entries}, write values = some entries →
    ∀ key ∉ keys, entries.get key = none
  read_iff : ∀ {made entries}, read entries = some made ↔
    ∃ values, value values = made ∧ Says values entries
  says_congr : ∀ {values} {entries others : Table}, Says values entries →
    (∀ key ∈ keys, others.get key = entries.get key) → Says values others
  says_alike : ∀ {values entries others}, Says values entries →
    Alike (.table entries) (.table others) → Says values others

namespace Record

variable {ρ α β : Type}

/-- No field yet. -/
def begin (ρ : Type) (make : β) : Record ρ β where
  Values := Unit
  keys := []
  fields := fun _ => ()
  value := fun _ => make
  write := fun _ => some []
  read := fun _ => some make
  Says := fun _ _ => True
  says_of_write := fun _ => trivial
  within := by
    intro values entries hwrite key _
    rw [← Option.some.inj hwrite]
    rfl
  read_iff := by simp
  says_congr := fun _ _ => trivial
  says_alike := fun _ _ => trivial

theorem get_alike
    {entries others : Table} (halike : Alike (.table entries) (.table others))
    (slot : Slot α) {value : α} {key : String}
    (hstands : slot.Says value (entries.get key)) :
    slot.Says value (others.get key) := by
  cases halike with
  | table hkeys hvalues =>
      have hkey := hkeys key
      cases hentry : entries.get key with
      | none =>
          rw [hentry, Option.isSome_none] at hkey
          rw [Option.isSome_eq_false_iff.mp hkey.symm |>
            Option.isNone_iff_eq_none.mp]
          rw [← hentry]
          exact hstands
      | some document =>
          rw [hentry, Option.isSome_some] at hkey
          obtain ⟨other, hother⟩ := Option.isSome_iff_exists.mp hkey.symm
          rw [hentry] at hstands
          rw [hother]
          exact slot.says_alike hstands
            (hvalues key document other hentry hother)

def field (record : Record ρ (α → β)) (key : String) (slot : Slot α)
    (get : ρ → α) (hkey : key ∉ record.keys := by simp) : Record ρ β where
  Values := record.Values × α
  keys := record.keys ++ [key]
  fields := fun whole => (record.fields whole, get whole)
  value := fun values => record.value values.1 values.2
  write := fun values => do
    let before ← record.write values.1
    let entry ← slot.write values.2
    some (before ++ entryOf key entry)
  read := fun entries => do
    let make ← record.read entries
    let last ← slot.read (entries.get key)
    some (make last)
  Says := fun values entries =>
    record.Says values.1 entries ∧ slot.Says values.2 (entries.get key)
  says_of_write := by
    intro values entries hwrite
    simp only [Option.bind_eq_bind, Option.bind_eq_some_iff,
      Option.some.injEq] at hwrite
    obtain ⟨before, hbefore, entry, hentry, rfl⟩ := hwrite
    constructor
    · apply record.says_congr (record.says_of_write hbefore)
      intro other hother
      have hne : other ≠ key := by
        rintro rfl
        exact hkey hother
      rw [get_append, get_entryOf_of_ne hne, Option.or_none]
    · have hnone := record.within hbefore key hkey
      rw [get_append, hnone, Option.none_or, get_entryOf_self]
      exact slot.says_of_write hentry
  within := by
    intro values entries hwrite other hother
    simp only [Option.bind_eq_bind, Option.bind_eq_some_iff,
      Option.some.injEq] at hwrite
    obtain ⟨before, hbefore, entry, hentry, rfl⟩ := hwrite
    rw [List.mem_append, List.mem_singleton, not_or] at hother
    rw [get_append, record.within hbefore other hother.1, Option.none_or]
    exact get_entryOf_of_ne hother.2 entry
  read_iff := by
    intro made entries
    simp only [Option.bind_eq_bind, Option.bind_eq_some_iff,
      Option.some.injEq, record.read_iff, slot.read_iff]
    constructor
    · rintro ⟨make, ⟨values, rfl, hstands⟩, last, hlast, rfl⟩
      exact ⟨(values, last), rfl, hstands, hlast⟩
    · rintro ⟨⟨values, last⟩, rfl, hstands, hlast⟩
      exact ⟨record.value values, ⟨values, rfl, hstands⟩, last, hlast, rfl⟩
  says_congr := by
    rintro values entries others ⟨hstands, hlast⟩ hsame
    constructor
    · apply record.says_congr hstands
      intro other hother
      exact hsame other (List.mem_append_left _ hother)
    · rw [hsame key (by simp)]
      exact hlast
  says_alike := by
    rintro values entries others ⟨hstands, hlast⟩ halike
    exact ⟨record.says_alike hstands halike, get_alike halike slot hlast⟩

@[simp] theorem keys_begin (make : β) : (begin ρ make).keys = [] := rfl

@[simp] theorem keys_field
    (record : Record ρ (α → β)) (key : String) (slot : Slot α) (get : ρ → α)
    (hkey : key ∉ record.keys) :
    (record.field key slot get hkey).keys = record.keys ++ [key] := rfl

/-- All fields are listed. -/
def codec (record : Record ρ ρ)
    (hvalue : ∀ whole, record.value (record.fields whole) = whole := by
      intro whole; rfl) :
    Codec ρ where
  write := fun whole =>
    (record.write (record.fields whole)).map Document.table
  read := fun document =>
    match document with
    | .table entries => record.read entries
    | _ => none
  Says := fun whole document =>
    ∃ entries, document = .table entries ∧
      ∃ values, record.value values = whole ∧ record.Says values entries
  says_of_write := by
    intro whole document hwrite
    obtain ⟨entries, hentries, rfl⟩ := Option.map_eq_some_iff.mp hwrite
    exact ⟨entries, rfl, record.fields whole, hvalue whole,
      record.says_of_write hentries⟩
  read_iff := by
    intro whole document
    cases document with
    | table entries => simp [record.read_iff]
    | text written => simp
    | number written => simp
    | flag written => simp
    | list items => simp
  says_alike := by
    rintro whole document other ⟨entries, rfl, values, hvalues, hstands⟩ halike
    cases halike with
    | table hkeys hentries =>
        exact ⟨_, rfl, values, hvalues,
          record.says_alike hstands (.table hkeys hentries)⟩

theorem read_begin (make : β) (entries : Table) :
    (begin ρ make).read entries = some make := rfl

theorem read_field
    (record : Record ρ (α → β)) (key : String) (slot : Slot α) (get : ρ → α)
    (hkey : key ∉ record.keys) (entries : Table) :
    (record.field key slot get hkey).read entries =
      (record.read entries).bind fun make =>
        (slot.read (entries.get key)).map make := by
  change Option.bind _ _ = _
  apply Option.bind_congr
  intro make _
  cases slot.read (entries.get key) <;> rfl

theorem read_codec
    {record : Record ρ ρ}
    {hvalue : ∀ whole, record.value (record.fields whole) = whole}
    {entries : Table} :
    (record.codec hvalue).read (.table entries) = record.read entries := rfl

end Record

/-! ## What can be written -/

section Writes

variable {α β ρ : Type} (codec : Codec α)

@[simp] theorem isSome_write_text (value : String) :
    (Codec.text.write value).isSome = true := rfl

@[simp] theorem isSome_write_flag (value : Bool) :
    (Codec.flag.write value).isSome = true := rfl

@[simp] theorem isSome_write_named
    {name : α → String} {choices : List α}
    {hall : ∀ value, value ∈ choices} {hnames : Function.Injective name}
    (value : α) :
    ((Codec.named name choices hall hnames).write value).isSome = true := rfl

@[simp] theorem isSome_write_natural (limit value : ℕ) :
    ((Codec.natural limit).write value).isSome = true ↔ value < limit := by
  simp [Codec.natural, Codec.scalar]

@[simp] theorem isSome_write_via
    {forth : β → α} {back : α → Option β}
    {hback : ∀ written value, back written = some value ↔
      written = forth value} (value : β) :
    ((codec.via forth back hback).write value).isSome =
      (codec.write (forth value)).isSome := rfl

theorem isSome_mapM_write (values : List α) :
    (values.mapM codec.write).isSome = true ↔
      ∀ value ∈ values, (codec.write value).isSome = true := by
  induction values with
  | nil => simp
  | cons value rest ih =>
      simp only [List.mapM_cons, Option.bind_eq_bind, Option.pure_def,
        List.forall_mem_cons, ← ih]
      cases codec.write value with
      | none => simp
      | some first => cases rest.mapM codec.write <;> simp

@[simp] theorem isSome_write_list (values : List α) :
    (codec.list.write values).isSome = true ↔
      ∀ value ∈ values, (codec.write value).isSome = true := by
  rw [← isSome_mapM_write]
  simp [Codec.list]

@[simp] theorem isSome_write_required (value : α) :
    ((Slot.required codec).write value).isSome =
      (codec.write value).isSome := by
  simp [Slot.required]

@[simp] theorem isSome_write_defaulted (default value : α) :
    ((Slot.defaulted codec default).write value).isSome =
      (codec.write value).isSome := by
  simp [Slot.defaulted]

@[simp] theorem isSome_write_optional (value : Option α) :
    ((Slot.optional codec).write value).isSome = true ↔
      ∀ present ∈ value, (codec.write present).isSome = true := by
  cases value <;> simp [Slot.optional]

@[simp] theorem isSome_write_begin (make : β) (whole : ρ) :
    ((Record.begin ρ make).write ((Record.begin ρ make).fields whole)).isSome =
      true := rfl

@[simp] theorem isSome_write_field
    (record : Record ρ (α → β)) (key : String) (slot : Slot α) (get : ρ → α)
    (hkey : key ∉ record.keys) (whole : ρ) :
    ((record.field key slot get hkey).write
        ((record.field key slot get hkey).fields whole)).isSome = true ↔
      (record.write (record.fields whole)).isSome = true ∧
        (slot.write (get whole)).isSome = true := by
  have hwrite : (record.field key slot get hkey).write
      ((record.field key slot get hkey).fields whole) =
        (record.write (record.fields whole)).bind fun before =>
          (slot.write (get whole)).bind fun entry =>
            some (before ++ entryOf key entry) := rfl
  rw [hwrite]
  cases record.write (record.fields whole) with
  | none => simp
  | some before => cases slot.write (get whole) <;> simp

theorem isSome_write_codec
    {record : Record ρ ρ}
    {hvalue : ∀ whole, record.value (record.fields whole) = whole}
    {whole : ρ} :
    ((record.codec hvalue).write whole).isSome = true ↔
      (record.write (record.fields whole)).isSome = true := by
  simp [Record.codec]

end Writes

end Documents
