/-!
# Dictionaries

Entries under text keys, kept in key order with one entry a key. Keys are ordered by code point.
-/

namespace SqlClient

/-- Entries in increasing order of their keys. -/
abbrev Dictionary (α : Type) := List (String × α)

namespace Dictionary

variable {α : Type}

def find? : Dictionary α → String → Option α
  | [], _ => none
  | (key, value) :: rest, wanted => if key = wanted then some value else find? rest wanted

/-- A dictionary with one entry set, in place of the entry its key had. -/
def insert : Dictionary α → String → α → Dictionary α
  | [], key, value => [(key, value)]
  | (head, old) :: rest, key, value =>
      if head = key then (key, value) :: rest
      else if head < key then (head, old) :: insert rest key value
      else (key, value) :: (head, old) :: rest

/-- The dictionary of pairs in which a later pair replaces an earlier one of its key. -/
def ofPairs (pairs : List (String × α)) : Dictionary α :=
  pairs.foldl (fun entries pair => entries.insert pair.1 pair.2) []

/-- Setting an entry changes what is found under its key and nothing else. -/
theorem find?_insert (entries : Dictionary α) (key : String) (value : α) (wanted : String) :
    (entries.insert key value).find? wanted =
      if key = wanted then some value else entries.find? wanted := by
  induction entries with
  | nil => simp [insert, find?]
  | cons entry rest ih =>
    obtain ⟨head, old⟩ := entry
    simp only [insert]
    split
    · next same =>
      subst same
      simp only [find?]
      split <;> simp_all
    · next different =>
      split
      · simp only [find?, ih]
        split
        · next found => simp [show key ≠ wanted from fun h => different (found.trans h.symm)]
        · rfl
      · simp only [find?]

end Dictionary

end SqlClient
