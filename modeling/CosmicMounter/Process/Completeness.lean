import CosmicMounter.Process.Capture

/-!
# Complete outputs

What the flag of `read_bounded` says about the stream it has read.  Callers take
an output that is not truncated for all that the command wrote.
-/

namespace CosmicMounter

/-- The stream fails before it ends. -/
def endsInError : List Read → Bool
  | some (_ :: _) :: rest => endsInError rest
  | none :: _ => true
  | _ => false

def retainedBytes (reads : List Read) (limit : Nat) : List UInt8 := (retain limit reads [] 0).1

/-- The text of retained bytes as the policy hands it on. -/
def shownText (json : SerdeJson) (capture : CapturePolicy) (bytes : List UInt8) : String :=
  let text := String.ofList (Utf8.decode bytes)
  if capture = .redacted then redactText json text else text

/-- The longest prefix within the limit is kept, and an output that is not
truncated is the whole of a stream that has ended. -/
structure ReportsStream (json : SerdeJson) (reads : List Read) (limit : Nat)
    (capture : CapturePolicy) : Prop where
  retained : retainedBytes reads limit = (streamOf reads).take limit
  text : (readBounded json reads limit capture).text =
    shownText json capture ((streamOf reads).take limit)
  complete : (readBounded json reads limit capture).truncated = false →
    endsInError reads = false ∧ retainedBytes reads limit = streamOf reads

variable {json : SerdeJson} {reads : List Read} {limit : Nat} {capture : CapturePolicy}

theorem retainedBytes_eq (reads : List Read) (limit : Nat) :
    retainedBytes reads limit = (streamOf reads).take limit := by
  rw [retainedBytes, retain_eq, List.nil_append, List.length_nil, Nat.sub_zero]

/-- The count of bytes stops at the largest count. -/
theorem retain_total (limit : Nat) (reads : List Read) (retained : List UInt8) (total : Nat)
    (htotal : total ≤ usizeMax) :
    (retain limit reads retained total).2 = min (total + (streamOf reads).length) usizeMax := by
  induction reads generalizing retained total with
  | nil => simpa [retain, streamOf] using htotal
  | cons read rest ih =>
      cases read with
      | none => simpa [retain, streamOf] using htotal
      | some bytes =>
          cases bytes with
          | nil => simpa [retain, streamOf] using htotal
          | cons byte bytes =>
              rw [retain, ih _ _ (Nat.min_le_right _ _), streamOf, List.length_append]
              omega

theorem truncated_eq_false_iff (hlimit : limit ≤ usizeMax) :
    (readBounded json reads limit capture).truncated = false ↔
      (streamOf reads).length ≤ limit ∨ limit = usizeMax := by
  have htotal := retain_total limit reads [] 0 (Nat.zero_le _)
  have hretained := congrArg List.length (retainedBytes_eq reads limit)
  have htruncated : (readBounded json reads limit capture).truncated =
      decide ((retainedBytes reads limit).length < (retain limit reads [] 0).2) := rfl
  rw [htruncated, decide_eq_false_iff_not, htotal, hretained, List.length_take]
  omega

/-- The flag is right unless a stream fails within the limit. -/
theorem reportsStream_iff (hlimit : limit ≤ usizeMax) :
    ReportsStream json reads limit capture ↔
      (endsInError reads = true → limit < (streamOf reads).length) ∧
        (limit = usizeMax → (streamOf reads).length ≤ usizeMax) := by
  have htake : (streamOf reads).take limit = streamOf reads ↔ (streamOf reads).length ≤ limit :=
    List.take_eq_self_iff _
  constructor
  · intro h
    have hcomplete := h.complete
    rw [truncated_eq_false_iff hlimit, retainedBytes_eq, htake] at hcomplete
    refine ⟨fun herror ↦ ?_, fun hmax ↦ ?_⟩
    · by_contra hshort
      have hended := (hcomplete (Or.inl (Nat.le_of_not_lt hshort))).1
      rw [herror] at hended
      cases hended
    · exact hmax ▸ (hcomplete (Or.inr hmax)).2
  · rintro ⟨herror, hmax⟩
    refine ⟨retainedBytes_eq reads limit, ?_, ?_⟩
    · rw [← retainedBytes_eq]
      rfl
    · rw [truncated_eq_false_iff hlimit, retainedBytes_eq, htake]
      intro hcount
      have hshort : (streamOf reads).length ≤ limit := by
        rcases hcount with hshort | hlast
        · exact hshort
        · exact hlast ▸ hmax hlast
      refine ⟨?_, hshort⟩
      cases hends : endsInError reads with
      | false => rfl
      | true => exact absurd (herror hends) (Nat.not_lt.mpr hshort)

/-! ## A failing stream -/

/-- Neither text below is a document. -/
def noDocuments : SerdeJson where
  fromStr _ := .error "expected value at line 1 column 1"
  toString _ := "null"

theorem reportsStream_sample :
    ReportsStream noDocuments [some [104, 105], some [33], some []] 2 .privateConfig :=
  (reportsStream_iff (by decide)).mpr ⟨by decide, by decide⟩

/-- Two bytes and then a failure count as the whole output. -/
theorem failing_stream_is_complete :
    ¬ ∀ (json : SerdeJson) (reads : List Read) (limit : Nat) (capture : CapturePolicy),
      limit ≤ usizeMax → ReportsStream json reads limit capture := by
  intro h
  have hreports := h noDocuments [some [104, 105], none] 8 .privateConfig (by decide)
  have htruncated :
      (readBounded noDocuments [some [104, 105], none] 8 .privateConfig).truncated = false := rfl
  exact absurd (hreports.complete htruncated).1 (by decide)

end CosmicMounter
