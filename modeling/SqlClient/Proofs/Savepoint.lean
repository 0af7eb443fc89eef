import Std.Data.String.ToNat
import SqlClient.Proofs.Attempt

/-!
# Savepoints of a server

A server with data of any kind and transactions with savepoints. Savepoints of one name may shadow
each other. Everything else that it is sent writes, and it fails only where a text asks for a
transaction or a savepoint that there is not.
-/

namespace SqlClient

/-- What a text asks of the transactions of a server. -/
inductive Control where
  | start
  | commit
  | rollback
  | save (name : String)
  | release (name : String)
  | restore (name : String)
  deriving DecidableEq, Repr

namespace Control

/-- The name behind an opening. -/
def behind? (opening text : String) : Option String :=
  if opening.toList.isPrefixOf text.toList then
    some (String.ofList (text.toList.drop opening.toList.length))
  else none

/-- What a text asks, if it is about transactions. -/
def ofText? (text : String) : Option Control :=
  if text = "BEGIN" ∨ text = "START TRANSACTION" then some .start
  else if text = "COMMIT" then some .commit
  else if text = "ROLLBACK" then some .rollback
  else
    ((behind? "SAVEPOINT " text).map .save).or
      (((behind? "RELEASE SAVEPOINT " text).map .release).or
        ((behind? "ROLLBACK TO SAVEPOINT " text).map .restore))

/-- The savepoint that has to exist for a control. -/
def savepoint? : Control → Option String
  | .release name => some name
  | .restore name => some name
  | _ => none

theorem behind?_append (opening name : String) : behind? opening (opening ++ name) = some name := by
  have begins : opening.toList.isPrefixOf (opening ++ name).toList = true := by
    rw [List.isPrefixOf_iff_prefix, String.toList_append]
    exact List.prefix_append _ _
  rw [behind?, if_pos begins, String.toList_append, List.drop_left, String.ofList_toList]

theorem append_ne {opening text : String} (different : ¬opening.toList <+: text.toList)
    (name : String) : opening ++ name ≠ text := by
  rintro rfl
  rw [String.toList_append] at different
  exact different (List.prefix_append _ _)

/-- A text that is longer than every text without a name is told by its opening. -/
theorem ofText?_append {opening : String} (name : String)
    (different : ∀ text ∈ ["BEGIN", "START TRANSACTION", "COMMIT", "ROLLBACK"],
      ¬opening.toList <+: text.toList) :
    ofText? (opening ++ name) =
      ((behind? "SAVEPOINT " (opening ++ name)).map .save).or
        (((behind? "RELEASE SAVEPOINT " (opening ++ name)).map .release).or
          ((behind? "ROLLBACK TO SAVEPOINT " (opening ++ name)).map .restore)) := by
  simp only [List.forall_mem_cons] at different
  obtain ⟨begin, start, commit, rollback, -⟩ := different
  rw [ofText?, if_neg, if_neg (append_ne commit name), if_neg (append_ne rollback name)]
  rintro (same | same)
  · exact append_ne begin name same
  · exact append_ne start name same

@[simp] theorem ofText?_save (name : String) :
    ofText? ("SAVEPOINT " ++ name) = some (.save name) := by
  rw [ofText?_append name (by decide), behind?_append]
  rfl

@[simp] theorem ofText?_release (name : String) :
    ofText? ("RELEASE SAVEPOINT " ++ name) = some (.release name) := by
  have other : behind? "SAVEPOINT " ("RELEASE SAVEPOINT " ++ name) = none := by
    simp [behind?, String.toList_append]
  rw [ofText?_append name (by decide), other, behind?_append]
  rfl

@[simp] theorem ofText?_restore (name : String) :
    ofText? ("ROLLBACK TO SAVEPOINT " ++ name) = some (.restore name) := by
  have other : behind? "SAVEPOINT " ("ROLLBACK TO SAVEPOINT " ++ name) = none := by
    simp [behind?, String.toList_append]
  have another : behind? "RELEASE SAVEPOINT " ("ROLLBACK TO SAVEPOINT " ++ name) = none := by
    simp [behind?, String.toList_append]
  rw [ofText?_append name (by decide), other, another, behind?_append]
  rfl

@[simp] theorem ofText?_beginText (dialect : Dialect) :
    ofText? dialect.beginText = some .start := by
  cases dialect <;> rfl

end Control

/-- Data with an open transaction or none. -/
structure Database (δ : Type) where
  data : δ
  /-- The data at the start of the open transaction. -/
  start? : Option δ
  /-- The savepoints with the data of each, the newest first. -/
  savepoints : List (String × δ)

namespace Database

variable {δ : Type}

/-- A transaction is open. -/
def isOpen (database : Database δ) : Bool :=
  database.start?.isSome

/-- A savepoint of a name exists. -/
def HasSavepoint (database : Database δ) (name : String) : Prop :=
  ∃ saved, (name, saved) ∈ database.savepoints

/-- A savepoint that a text is about exists. -/
def Knows (database : Database δ) (text : String) : Prop :=
  ∀ control name, Control.ofText? text = some control → control.savepoint? = some name →
    database.HasSavepoint name

/-- The newest savepoint of a name and all older ones. -/
def since (name : String) (savepoints : List (String × δ)) : List (String × δ) :=
  savepoints.dropWhile fun entry => entry.1 ≠ name

/-- The database after a control, unless that is against the rules. -/
def apply (database : Database δ) : Control → Option (Database δ)
  | .start =>
      if database.isOpen then none
      else some { database with start? := some database.data, savepoints := [] }
  | .commit => database.start?.map fun _ => ⟨database.data, none, []⟩
  | .rollback => database.start?.map fun start => ⟨start, none, []⟩
  | .save name =>
      if database.isOpen then
        some { database with savepoints := (name, database.data) :: database.savepoints }
      else none
  | .release name =>
      match since name database.savepoints with
      | [] => none
      | _ :: older => some { database with savepoints := older }
  | .restore name =>
      match since name database.savepoints with
      | [] => none
      | (found, saved) :: older =>
          some { database with data := saved, savepoints := (found, saved) :: older }

/-- The server with a way to write. It fails only against the rules of savepoints. -/
def server (write : String → List Scalar → δ → Answer × δ) : Server (Database δ) where
  connect _ database := (.ok 0, database)
  execute _ text values database :=
    match Control.ofText? text with
    | none => (.ok (write text values database.data).1,
        { database with data := (write text values database.data).2 })
    | some control =>
        match database.apply control with
        | none => (.error ⟨none, "no such transaction or savepoint", false⟩, database)
        | some after => (.ok (.affected 0 none), after)
  unrest _ := 0
  unrest_connected := by simp
  unrest_refused := by simp
  unrest_failed := by
    intro _ _ _ database error _ _ failed recoverable
    split at failed
    · simp at failed
    · split at failed
      · obtain ⟨rfl, -⟩ := by simpa using failed
        exact absurd rfl recoverable
      · simp at failed

theorem knows_of_control {database : Database δ} {text : String} {control : Control}
    (asked : Control.ofText? text = some control)
    (known : ∀ name ∈ control.savepoint?, database.HasSavepoint name) : database.Knows text := by
  intro control' name asked' named
  rw [asked] at asked'
  obtain rfl := Option.some.inj asked'
  exact known name named

theorem knows_of_plain {database : Database δ} {text : String}
    (plain : Control.ofText? text = none) : database.Knows text := by
  intro control name asked
  simp [plain] at asked

/-- The newest savepoint of a name, behind savepoints of other names. -/
theorem since_append {name : String} {above : List (String × δ)}
    (others : ∀ entry ∈ above, entry.1 ≠ name) (saved : δ) (below : List (String × δ)) :
    since name (above ++ (name, saved) :: below) = (name, saved) :: below := by
  rw [since, List.dropWhile_append_of_pos (by simpa using others)]
  simp

theorem apply_release {database : Database δ} {name : String} {newest : String × δ}
    {older : List (String × δ)} (found : since name database.savepoints = newest :: older) :
    database.apply (.release name) = some { database with savepoints := older } := by
  simp only [apply, found]

theorem apply_restore {database : Database δ} {name : String} {saved : δ}
    {older : List (String × δ)}
    (found : since name database.savepoints = (name, saved) :: older) :
    database.apply (.restore name) =
      some { database with data := saved, savepoints := (name, saved) :: older } := by
  simp only [apply, found]

end Database

end SqlClient
