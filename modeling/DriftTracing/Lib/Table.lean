import Mathlib.Data.List.Basic

/-!
# Tables as texts

A table is a list of records, a record a list of fields. In the text of a table a
separator stands between the fields and a line break behind each record. It is read back
by cutting the text at every line break and every line at every separator, if the fields
contain neither.
-/
namespace DriftTracing.Lib.Table

variable {α : Type*} [DecidableEq α] {separator lineBreak : α}

def writeRecord (separator lineBreak : α) (record : List (List α)) : List α :=
  [separator].intercalate record ++ [lineBreak]

def write (separator lineBreak : α) (records : List (List (List α))) : List α :=
  records.flatMap (writeRecord separator lineBreak)

/-- Every line break ends a line; there is no line behind the last one. -/
def read (separator lineBreak : α) (text : List α) : List (List (List α)) :=
  (text.splitOn lineBreak).dropLast.map (List.splitOn separator)

/-- A record that can be read back: it has fields, and its fields contain no separator
and no line break. -/
structure Plain (separator lineBreak : α) (record : List (List α)) : Prop where
  nonempty : record ≠ []
  separator : ∀ field ∈ record, separator ∉ field
  lineBreak : ∀ field ∈ record, lineBreak ∉ field

omit [DecidableEq α] in
theorem Plain.line {record : List (List α)} (h : Plain separator lineBreak record)
    (different : lineBreak ≠ separator) : lineBreak ∉ [separator].intercalate record := by
  have fields := h.lineBreak
  clear h
  induction record with
  | nil => simp
  | cons field rest ih =>
    have first := fields field List.mem_cons_self
    have later := ih fun f hf => fields f (List.mem_cons_of_mem _ hf)
    cases rest with
    | nil => simpa using first
    | cons next rest =>
      rw [List.intercalate_cons_cons, List.mem_append, List.mem_append, List.mem_singleton]
      rintro ((inFirst | isSeparator) | inRest)
      · exact first inFirst
      · exact different isSeparator
      · exact later inRest

/-- The first record is the first line. -/
theorem read_cons {record : List (List α)} (h : Plain separator lineBreak record)
    (different : lineBreak ≠ separator) (text : List α) :
    read separator lineBreak (writeRecord separator lineBreak record ++ text) =
      record :: read separator lineBreak text := by
  rw [writeRecord, List.append_assoc, List.singleton_append, read,
    List.splitOn_append_cons_self_of_not_mem (h.line different),
    List.dropLast_cons_of_ne_nil (List.splitOn_ne_nil _ _), List.map_cons,
    List.splitOn_intercalate _ h.separator h.nonempty]
  rfl

theorem read_write {records : List (List (List α))}
    (plain : ∀ record ∈ records, Plain separator lineBreak record)
    (different : lineBreak ≠ separator) :
    read separator lineBreak (write separator lineBreak records) = records := by
  induction records with
  | nil => simp [write, read]
  | cons record rest ih =>
    rw [write, List.flatMap_cons, read_cons (plain record List.mem_cons_self) different]
    exact congrArg _ (ih fun r hr => plain r (List.mem_cons_of_mem _ hr))

end DriftTracing.Lib.Table
