import BundleRunner.Document.Reader
import BundleRunner.Fault

namespace BundleRunner

/-!
# Settings and options

`Settings` are the limits that a run keeps; `Options` are texts that the scheduler passes on to the
callback.  Both can be read from a document, in which unknown keys are refused:

* `Settings.parse`, `Options.parse` — read from a document;
* `Settings.validate` — the limit on side-output tags is not zero.
-/

/-- The limits of a run. -/
@[ext] structure Settings where
  /-- How far outputs may lie before their inputs. -/
  skew : Skew
  /-- How many different side-output tags may be used. -/
  maxTags : Nat
deriving DecidableEq

/-- A fault of the configuration whose detail is a matter of the document's reader. -/
def unreadable : Fault := .invalidConfiguration "<toml>"

namespace Settings

/-- No backward shift, and a thousand tags. -/
protected def default : Settings := ⟨.zero, 1000⟩

instance : Inhabited Settings := ⟨Settings.default⟩

/-- Fails when no tag may be used. -/
def validate (s : Settings) : Except Fault Unit :=
  if s.maxTags = 0 then
    .error (.invalidConfiguration "max_side_output_tags must be greater than zero")
  else .ok ()

/-- Settings that pass validation. -/
def make (skew : Skew) (maxTags : Nat) : Except Fault Settings :=
  let s : Settings := ⟨skew, maxTags⟩
  s.validate.map fun _ => s

/-- Whether a text is the word for no bound, in upper or lower case. -/
def isUnbounded (s : String) : Bool :=
  String.ofList (s.toList.map Char.toLower) == "unbounded"

/-- A skew: milliseconds, or the word for no bound. -/
def skewOf? : Document.Datum → Option Skew
  | .scalar (.integer n) => if 0 ≤ n then some (.bounded (.ofMillis n.toNat)) else none
  | .scalar (.text s) => if isUnbounded s then some .unbounded else none
  | _ => none

/-- A limit: an integer that is not negative. -/
def limitOf? : Document.Datum → Option Nat
  | .scalar (.integer n) => if 0 ≤ n then some n.toNat else none
  | _ => none

/-- What a document says about the settings so far. -/
structure Draft where
  skew : Option Skew
  maxTags : Option Nat

/-- Take in one statement; a key that is unknown or was there before is refused. -/
def Draft.take? (d : Draft) : Document.Statement → Option Draft
  | .assign ["timestamp_skew"] value =>
    if d.skew.isSome then none else (skewOf? value).map fun skew => { d with skew := some skew }
  | .assign ["max_side_output_tags"] value =>
    if d.maxTags.isSome then none
    else (limitOf? value).map fun limit => { d with maxTags := some limit }
  | _ => none

/-- The settings in a document, before validation. -/
def ofDocument? (source : String) : Option Settings := do
  let statements ← Document.statements? source
  let draft ← statements.foldlM Draft.take? ⟨none, none⟩
  return ⟨draft.skew.getD Settings.default.skew, draft.maxTags.getD Settings.default.maxTags⟩

/-- The settings in a document. -/
def parse (source : String) : Except Fault Settings :=
  match ofDocument? source with
  | none => .error unreadable
  | some s => s.validate.map fun _ => s

end Settings

/-- Texts for the callback: the name of the job, and options by key in increasing order. -/
@[ext] structure Options where
  jobName : Option String
  entries : List (String × String)
deriving DecidableEq

namespace Options

/-- No options. -/
def empty : Options := ⟨none, []⟩

instance : Inhabited Options := ⟨empty⟩

/-- The option with a key. -/
def get? (o : Options) (key : String) : Option String :=
  (o.entries.find? (·.1 == key)).map (·.2)

/-- Put an entry into its place among entries in increasing order of keys. -/
def place (key value : String) : List (String × String) → List (String × String)
  | [] => [(key, value)]
  | e :: es =>
    if key < e.1 then (key, value) :: e :: es
    else if key = e.1 then (key, value) :: es
    else e :: place key value es

/-- Set an option in place of the one with the same key. -/
def set (o : Options) (key value : String) : Options :=
  { o with entries := place key value o.entries }

/-- An option that was set reads as it was set. -/
@[simp] theorem get?_set_self (o : Options) (key value : String) :
    (o.set key value).get? key = some value := by
  have found : ∀ es, (place key value es).find? (·.1 == key) = some (key, value) := by
    intro es
    induction es with
    | nil => simp [place]
    | cons e es ih =>
      simp only [place]
      split
      · simp
      · split
        · simp
        · rename_i h
          have hne : (e.1 == key) = false := by simpa using fun he : e.1 = key => h he.symm
          simp [hne, ih]
  simp [get?, set, found]

/-- Setting an option leaves the others alone. -/
theorem get?_set_of_ne (o : Options) {key other : String} (value : String) (h : other ≠ key) :
    (o.set key value).get? other = o.get? other := by
  have found : ∀ es, (place key value es).find? (·.1 == other) = es.find? (·.1 == other) := by
    intro es
    induction es with
    | nil => simp [place, h.symm]
    | cons e es ih =>
      simp only [place]
      split
      · simp [h.symm]
      · split
        · rename_i he
          simp [← he, h.symm]
        · simp [List.find?_cons, ih]
  simp [get?, set, found]

/-- How a document may say what the options are. -/
inductive Source where
  /-- Not yet. -/
  | unsaid
  /-- By assignments to dotted keys. -/
  | dotted
  /-- By a value or a section of its own, to which nothing can be added from outside. -/
  | closed
deriving DecidableEq

/-- What a document says about the options so far, and the section that is being read. -/
structure Draft where
  options : Options
  source : Source
  inSection : Bool

/-- Set an option that was not set before. -/
def Draft.setNew? (d : Draft) (key value : String) : Option Draft :=
  if (d.options.get? key).isSome then none
  else some { d with options := d.options.set key value }

/-- Set the options in a table that is written on one line. -/
def Draft.setAll? (d : Draft) (entries : List (List String × Document.Scalar)) : Option Draft :=
  entries.foldlM (fun d entry =>
    match entry with
    | ([key], .text value) => d.setNew? key value
    | _ => none) d

/-- Take in one statement; a key that is unknown or was there before is refused.  A date in the
    place of the options counts as a table with the date under a key of its own. -/
def Draft.take? (d : Draft) : Document.Statement → Option Draft
  | .section ["options"] =>
    if d.source = .unsaid then some { d with source := .closed, inSection := true } else none
  | .section _ => none
  | .assign path value =>
    if d.inSection then
      match path, value with
      | [key], .scalar (.text s) => d.setNew? key s
      | _, _ => none
    else
      match path, value with
      | ["job_name"], .scalar (.text s) =>
        if d.options.jobName.isSome then none
        else some { d with options := { d.options with jobName := some s } }
      | ["options"], .table entries =>
        if d.source = .unsaid then Draft.setAll? { d with source := .closed } entries else none
      | ["options"], .scalar (.date s) =>
        if d.source = .unsaid then
          Draft.setNew? { d with source := .closed } "$__toml_private_datetime" s
        else none
      | ["options", key], .scalar (.text s) =>
        if d.source = .closed then none else Draft.setNew? { d with source := .dotted } key s
      | _, _ => none

/-- The options in a document. -/
def ofDocument? (source : String) : Option Options := do
  let statements ← Document.statements? source
  let draft ← statements.foldlM Draft.take? ⟨empty, .unsaid, false⟩
  return draft.options

/-- The options in a document. -/
def parse (source : String) : Except Fault Options :=
  match ofDocument? source with
  | none => .error unreadable
  | some o => .ok o

end Options

end BundleRunner
