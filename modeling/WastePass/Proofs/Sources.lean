import WastePass.Source
import WastePass.Proofs.Utf8

/-!
# Sources — the same bytes give the same tables wherever they are kept

    A file and an address hold bytes.  Both read the bytes of a text as that text, but for
    a mark at its front, which a file keeps and an address drops; and what they do with the
    text is the same.  They part where bytes are no text, which only a file refuses, and
    where an answer says that it failed.  Failing is not the same as not succeeding: an
    answer that leads elsewhere, without saying where, has its body read.
-/

namespace WastePass

open Text (Bytes Charset Utf8.encode)

/-! ## Named charsets -/

namespace Text.MediaType

/-- The name of a charset that a header gives, known or not. -/
def label? (header : String) : Option String :=
  let cs := headerValue header
  if cs.all isVisible then do
    let parameters ← read? cs
    let (_, label) ← parameters.find? fun p =>
      p.1.map Char.toLower = ['c', 'h', 'a', 'r', 's', 'e', 't']
    return String.ofList label
  else none

/-- The header names no charset but UTF-8. -/
def NamesUtf8Only (header : String) : Prop :=
  ∀ label ∈ label? header, Charset.ofLabel? label = some .utf8

/-- The charset of a header is that of the name it gives. -/
theorem charset?_eq (header : String) :
    charset? header = (label? header).bind Charset.ofLabel? := by
  unfold charset? label?
  by_cases hvisible : (headerValue header).all isVisible
  · simp only [hvisible, if_true]
    cases hread : read? (headerValue header) with
    | none => rfl
    | some parameters =>
        simp only [Option.bind_eq_bind, Option.bind_some]
        cases parameters.find? _ with
        | none => rfl
        | some p => rfl
  · simp only [hvisible]
    rfl

/-- A header that names no charset but UTF-8 gives no other. -/
theorem NamesUtf8Only.charset {header : String} (h : NamesUtf8Only header) :
    ∀ charset ∈ charset? header, charset = .utf8 := by
  intro charset hcharset
  rw [charset?_eq] at hcharset
  obtain ⟨label, hlabel, hof⟩ := Option.bind_eq_some_iff.mp hcharset
  exact Option.some.inj (hof.symm.trans (h label hlabel))

end Text.MediaType

theorem WebAnswer.isFailure_iff (a : WebAnswer) :
    a.isFailure = true ↔ 400 ≤ a.status ∧ a.status ≤ 599 := by
  rw [isFailure, Bool.and_eq_true, decide_eq_true_eq, decide_eq_true_eq]

namespace Source

/-! ## Files -/

theorem load_file_of_unreadable {disk : Disk} {path : String} {f : DiskFault}
    (h : disk.readText path = .error f) (web : Web) :
    (Source.file path).load disk web = .error (.unreadable f) := by
  show ((disk.readText path).mapError SourceError.unreadable >>= ofText) = _
  rw [h]
  rfl

theorem load_file_of_text {disk : Disk} {path text : String} (h : disk.readText path = .ok text)
    (web : Web) : (Source.file path).load disk web = ofText text := by
  show ((disk.readText path).mapError SourceError.unreadable >>= ofText) = _
  rw [h]
  rfl

/-- The bytes of a text are read as that text. -/
theorem readText_of_encode {disk : Disk} {path text : String}
    (h : disk.read path = .ok (Utf8.encode text)) : disk.readText path = .ok text := by
  have htext := (Text.Utf8.strict?_eq_some_iff (Utf8.encode text) text).mpr rfl
  unfold Disk.readText
  simp only [h, bind, Except.bind, htext]
  rfl

/-- Bytes of no text are not read. -/
theorem readText_of_no_text {disk : Disk} {path : String} {bytes : Bytes}
    (h : disk.read path = .ok bytes) (hbytes : ∀ text, bytes ≠ Utf8.encode text) :
    disk.readText path = .error .notUtf8 := by
  have htext := (Text.Utf8.strict?_eq_none_iff bytes).mpr hbytes
  unfold Disk.readText
  simp only [h, bind, Except.bind, htext]
  rfl

/-! ## Addresses -/

/-- An answer that came and did not fail is read as a document. -/
theorem load_remote_of_read {web : Web} {address : String} {a : WebAnswer}
    (hanswer : web address = some a) (hfinal : a.isFinal = true) (hfailure : a.isFailure = false)
    (disk : Disk) : (Source.remote address).load disk web = ofText a.text := by
  show ofAnswer (web address) = _
  rw [hanswer]
  exact if_pos (by rw [hfinal, hfailure]; rfl)

/-- The body of an answer that has one is decoded by the charset that is named with it. -/
theorem load_remote_of_body {web : Web} {address contentType : String} {status : Nat}
    {body : Bytes} (hanswer : web address = some ⟨status, contentType, body⟩)
    (hstatus : 200 ≤ status ∧ status < 400 ∧ status ≠ 204 ∧ status ≠ 304) (disk : Disk) :
    (Source.remote address).load disk web
      = ofText (Charset.decode (Text.MediaType.charset? contentType) body) := by
  have hfinal : WebAnswer.isFinal ⟨status, contentType, body⟩ = true := by
    simp only [WebAnswer.isFinal, Bool.or_eq_true, Bool.and_eq_true, decide_eq_true_eq]
    omega
  have hfailure : WebAnswer.isFailure ⟨status, contentType, body⟩ = false := by
    rw [← Bool.not_eq_true, WebAnswer.isFailure_iff]
    exact fun h => absurd h.1 (Nat.not_le.mpr hstatus.2.1)
  have hbody : WebAnswer.hasBody ⟨status, contentType, body⟩ = true := by
    simp only [WebAnswer.hasBody, Bool.and_eq_true, decide_eq_true_eq]
    omega
  rw [load_remote_of_read hanswer hfinal hfailure, WebAnswer.text, if_pos hbody]

/-- All else gives nothing to read. -/
theorem load_remote_of_unread {web : Web} {address : String}
    (h : ∀ a, web address = some a → a.isFinal = true → a.isFailure = true) (disk : Disk) :
    (Source.remote address).load disk web = .error .unreachable := by
  show ofAnswer (web address) = _
  cases hanswer : web address with
  | none => rfl
  | some a =>
      refine if_neg fun hread => ?_
      rw [Bool.and_eq_true, Bool.not_eq_true'] at hread
      exact Bool.false_ne_true (hread.2.symm.trans (h a hanswer hread.1))

/-! ## All sources -/

/-- What files and addresses give, told by the bytes they hold.  An address is like a file if
    no mark is in front and no other charset is named; what is no text, or says that it
    failed, is not looked at. -/
structure SharedLoading (disk : Disk) (web : Web) : Prop where
  file : ∀ path text, disk.read path = .ok (Utf8.encode text) →
    (Source.file path).load disk web = (Tables.ofDocument text).mapError .document
  remote : ∀ address contentType text,
    web address = some ⟨200, contentType, Utf8.encode text⟩ →
    Text.MediaType.NamesUtf8Only contentType → ¬ Charset.Marked text →
      (Source.remote address).load disk web = (Tables.ofDocument text).mapError .document
  marked : ∀ address contentType text,
    web address = some
      ⟨200, contentType, String.utf8EncodeChar Charset.mark ++ Utf8.encode text⟩ →
      (Source.remote address).load disk web = (Tables.ofDocument text).mapError .document
  noText : ∀ path bytes, disk.read path = .ok bytes → (∀ text, bytes ≠ Utf8.encode text) →
    (Source.file path).load disk web = .error (.unreadable .notUtf8)
  failed : ∀ address a, web address = some a → 400 ≤ a.status → a.status ≤ 599 →
    (Source.remote address).load disk web = .error .unreachable

/-- **Files and addresses share the loading of documents**, on any disk and any web. -/
theorem sources_share_loading (disk : Disk) (web : Web) : SharedLoading disk web where
  file path text h := load_file_of_text (readText_of_encode h) web
  remote address contentType text hanswer hcharset hmark := by
    rw [load_remote_of_body hanswer (by decide), Charset.decode_encode hmark hcharset.charset]
    rfl
  marked address contentType text hanswer := by
    rw [load_remote_of_body hanswer (by decide), Charset.decode_mark]
    rfl
  noText path bytes hread hbytes :=
    load_file_of_unreadable (readText_of_no_text hread hbytes) web
  failed address a hanswer hlow hhigh := by
    refine load_remote_of_unread (fun other hother _ => ?_) disk
    rw [hanswer] at hother
    rw [← Option.some.inj hother]
    exact a.isFailure_iff.mpr ⟨hlow, hhigh⟩

/-- A fault behind a letter of two bytes is placed alike, a byte that writes nothing is refused
    in a file, and a failure with a good document is one all the same. -/
theorem sources_share_loading_of_accent :
    let text := "[[[\"é\"]]]"
    let disk : Disk := ⟨[(["w", "t"], Utf8.encode text), (["w", "x"], [0x7B, 0xFF, 0x7D])], ["w"]⟩
    let web : Web := fun address =>
      if address = "http://a" then some ⟨200, "text/json; charset=UTF8", Utf8.encode text⟩
      else some ⟨503, "", Utf8.encode "{}"⟩
    (Source.file "../w/t").load disk web = (Source.remote "http://a").load disk web ∧
      (Source.file "x").load disk web = .error (.unreadable .notUtf8) ∧
      (Source.remote "http://b").load disk web = .error .unreachable := by
  intro text disk web
  have hshared := sources_share_loading disk web
  have hcharset : Text.MediaType.NamesUtf8Only "text/json; charset=UTF8" := by
    have hlabel : Text.MediaType.label? "text/json; charset=UTF8" = some "UTF8" := by rfl
    have hutf8 : Charset.ofLabel? "UTF8" = some .utf8 := by rfl
    intro label h
    rw [hlabel] at h
    rw [← Option.some.inj h, hutf8]
  have hnoText : ∀ text, [0x7B, 0xFF, 0x7D] ≠ Utf8.encode text :=
    (Text.Utf8.strict?_eq_none_iff _).mp (by rfl)
  have hmark : ¬ Charset.Marked text := by decide
  refine ⟨?_, hshared.noText "x" _ (by rfl) hnoText, hshared.failed "http://b" _ rfl (by decide)
    (by decide)⟩
  rw [hshared.file "../w/t" text (by rfl), hshared.remote "http://a" _ text rfl hcharset hmark]

/-- **What an address gives is decided by its answer**: nothing unless there is one that is
    final and does not say that it failed, and otherwise what the body gives. -/
theorem load_remote_eq (disk : Disk) (web : Web) (address : String) :
    ((Source.remote address).load disk web = .error .unreachable ↔
      ∀ a, web address = some a → a.isFinal = true → 400 ≤ a.status ∧ a.status ≤ 599) ∧
    ∀ a, web address = some a → a.isFinal = true → ¬ (400 ≤ a.status ∧ a.status ≤ 599) →
      (Source.remote address).load disk web = (Tables.ofDocument a.text).mapError .document := by
  have hread : ∀ a, web address = some a → a.isFinal = true →
      ¬ (400 ≤ a.status ∧ a.status ≤ 599) →
        (Source.remote address).load disk web = ofText a.text := by
    intro a hanswer hfinal hstatus
    refine load_remote_of_read hanswer hfinal ?_ disk
    rw [← Bool.not_eq_true, a.isFailure_iff]
    exact hstatus
  refine ⟨⟨fun h a hanswer hfinal => ?_, fun h => ?_⟩, hread⟩
  · -- A document that is looked at is never called unreachable.
    by_contra hstatus
    rw [hread a hanswer hfinal hstatus] at h
    unfold ofText at h
    cases hdocument : Tables.ofDocument a.text with
    | error e =>
        rw [hdocument] at h
        cases h
    | ok t =>
        rw [hdocument] at h
        cases h
  · refine load_remote_of_unread (fun a hanswer hfinal => ?_) disk
    exact a.isFailure_iff.mpr (h a hanswer hfinal)

/-- An answer that leads elsewhere without saying where supplies tables. -/
theorem redirection_supplies_tables :
    ¬ ∀ (disk : Disk) (web : Web) (address : String) (a : WebAnswer), web address = some a →
      ¬ (200 ≤ a.status ∧ a.status ≤ 299) →
        (Source.remote address).load disk web = .error .unreachable := by
  intro h
  let body := "\x7b\"pass_numbers\":[[\"Weesp\",\"1380\"]]\x7d"
  let a : WebAnswer := ⟨302, "application/json", Utf8.encode body⟩
  have hrefused := h ⟨[], []⟩ (fun _ => some a) "http://a" a rfl (by decide)
  have hcharset : Text.MediaType.charset? "application/json" = none := by rfl
  have hmark : ¬ Charset.Marked body := by decide
  have htext : Charset.decode none (Utf8.encode body) = body :=
    Charset.decode_encode hmark (fun _ h => nomatch h)
  have htables : (ofText body).toOption = some ⟨[], [(.weesp, "1380")], []⟩ := by
    decide +kernel
  rw [load_remote_of_body rfl (by decide), hcharset, htext] at hrefused
  rw [hrefused] at htables
  exact nomatch htables

end Source

end WastePass
