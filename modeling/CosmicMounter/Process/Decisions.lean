import CosmicMounter.Mounts.TableAgreement
import CosmicMounter.Pending.PreviewAgreement

/-!
# Decisions on redacted output

The preview of a mirror and the already-mounted test, on what the commands
printed and on what the applet captured of it.
-/

namespace CosmicMounter

open Rust Serde Preview Mounts

/-- Both decisions are the same whether the output is redacted or not. -/
structure SameDecisions (json : SerdeJson) (timestamp : ParseTimestamp) (runner : Runner)
    (remoteTarget localTarget filters mountinfo mountpoint : String) : Prop where
  preview :
    rclonePreviewSnapshot json timestamp (redacting json runner) remoteTarget localTarget filters
        false false =
      rclonePreviewSnapshot json timestamp runner remoteTarget localTarget filters false false
  mounted : checkMountinfo (redactText json mountinfo) mountpoint = checkMountinfo mountinfo mountpoint

def sampleTime : String := "2026-01-01T00:00:00Z"

def sampleListing (name : String) : String :=
  "[\x7b\"Path\":\"" ++ name ++ "\",\"Size\":1,\"ModTime\":\"" ++ sampleTime ++ "\",\"IsDir\":false\x7d]"

def sampleListingValue (name : String) : Value :=
  .array (.cons (.ofFields [("Path", .string name), ("Size", .number (.unsigned 1)),
    ("ModTime", .string sampleTime), ("IsDir", .bool false)]) .nil)

/-- A parser and a writer that know listings of one file. -/
def sampleJson : SerdeJson where
  fromStr text :=
    match ["a.txt", "token=a", "token=b", "token=[REDACTED]"].find? (sampleListing · == text) with
    | some name => .ok (sampleListingValue name)
    | none => .error "expected value at line 1 column 1"
  toString value :=
    match Preview.itemsOf value with
    | some [item] => sampleListing item.path
    | _ => "null"

def sampleTimestamp (text : String) : Option Int :=
  if text = sampleTime then some 1767225600000000000 else none

/-- A runner that lists one file on each side. -/
def sampleRunner (remote local' : String) : Runner := fun request ↦
  let name := if request.args.contains "remote:" then remote else local'
  .ok { stdout := ⟨sampleListing name, false, false⟩, stderr := ⟨"", false, false⟩ }

theorem isToken_slash : Rust.Str.IsToken "/" := by decide

theorem isToken_rw : Rust.Str.IsToken "rw" := by decide

def sampleMount (name : String) (hname : Path.IsName name)
    (hblanks : (Config.absolute ["mnt", name]).toList.any Str.isWhitespace = false) : Mount where
  id := 36
  parent := 35
  major := 98
  minor := 0
  root := "/"
  target := ["mnt", name]
  options := "rw"
  optional := [.shared 1]
  filesystem := "fuse.rclone"
  source := "remote:"
  superOptions := "rw"
  root_token := isToken_slash
  root_shape := by decide
  target_names := by
    intro other hother
    rcases List.mem_cons.mp hother with rfl | hother
    · decide
    · rwa [List.mem_singleton.mp hother]
  target_blanks := hasEscapedBlanks_of_none hblanks
  options_token := isToken_rw
  options_head := by decide
  filesystem_token := by decide
  source_token := by decide
  superOptions_token := isToken_rw
  superOptions_head := by decide

theorem isTimeText_sample : IsTimeText sampleTime :=
  ⟨by decide, ⟨'2', _, rfl, by decide⟩, by decide⟩

theorem hasTimes_sample {name : String} {items : List Item}
    (h : Preview.itemsOf (sampleListingValue name) = some items) : HasTimes items := by
  obtain rfl : [⟨name, 1, sampleTime, false⟩] = items := Option.some.inj h
  intro item hitem
  obtain rfl := List.mem_singleton.mp hitem
  exact isTimeText_sample

theorem redact_sample (name : String) :
    redactJsonValue (sampleListingValue name) = sampleListingValue (redactPlainText name) := by
  have hplain : isSensitiveField "Path" = false ∧ isSensitiveField "Size" = false ∧
      isSensitiveField "ModTime" = false ∧ isSensitiveField "IsDir" = false := by decide
  have htime := isTimeText_sample.redactPlainText
  simp [sampleListingValue, Value.ofFields, redactJsonValue, redactItems, redactFields, hplain, htime]

theorem isListing_sample (name redacted : String) (hname : redactPlainText name = redacted)
    (hfound : ["a.txt", "token=a", "token=b", "token=[REDACTED]"].find?
      (sampleListing · == sampleListing name) = some name)
    (hredacted : ["a.txt", "token=a", "token=b", "token=[REDACTED]"].find?
      (sampleListing · == sampleListing redacted) = some redacted) :
    IsListing sampleJson (sampleListing name) (sampleListingValue name) := by
  have hwritten : sampleJson.toString (sampleListingValue redacted) = sampleListing redacted := rfl
  refine ⟨?_, ⟨id, ?_⟩, fun items ↦ hasTimes_sample⟩
  · simp only [sampleJson, hfound]
  · rw [redact_sample, hname, hwritten]
    simp only [sampleJson, hredacted]
    rfl

/-- One entry of a sample listing. -/
def sampleItem (name : String) : Item := ⟨name, 1, sampleTime, false⟩

theorem itemsOf_sample (name : String) :
    Preview.itemsOf (sampleListingValue name) = some [sampleItem name] := rfl

theorem isSound_sample {name : String} (h : isRefusedPath name = false) :
    IsSound sampleTimestamp [sampleItem name] := by
  refine ⟨?_, List.nodup_singleton _⟩
  intro item hitem
  obtain rfl := List.mem_singleton.mp hitem
  exact ⟨rfl, h, rfl⟩

theorem survives_sample {name : String} (hpath : isRefusedPath name = false) :
    ListingsSurvive sampleTimestamp (sampleListingValue name) (sampleListingValue name) := by
  intro remoteItems localItems hremote hlocal
  obtain rfl := Option.some.inj hremote
  obtain rfl := Option.some.inj hlocal
  constructor
  · rintro - first ⟨item, hitem, rfl⟩ second ⟨item', hitem', rfl⟩ -
    have hnames : ∀ i ∈ [sampleItem name] ++ [sampleItem name], i = sampleItem name := by simp
    have hfirst : item = sampleItem name := hnames item hitem
    have hsecond : item' = sampleItem name := hnames item' hitem'
    rw [hfirst, hsecond]
  · intro _
    exact ⟨isSound_sample hpath, isSound_sample hpath⟩

end CosmicMounter
