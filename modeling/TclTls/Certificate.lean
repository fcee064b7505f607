import Mathlib.Data.List.Nodup
import TclTls.Stream.Queue

/-!
# TclTls.Certificate

The fields of a certificate that `Tls_NewX509Obj` prints into a memory BIO and
reads back.

One BIO serves all fields.  `BIO_flush` does not empty it, so what a field leaves
behind is what the next one that prints without an error begins with.  Nothing is
left behind by a field that prints without an error and fits its buffer
(`certificate_fields_iff`).
-/

namespace TclTls

/-! ## The memory BIO -/

/-- `BUFSIZ` -/
def bufsiz : Nat := 8192

/-- `CERT_STR_SIZE` -/
def certStrSize : Nat := 24576

/-- What a print function does: the bytes that it appends to the BIO, and what it
returns.  A print that fails may have written something. -/
structure Print (α : Type) where
  written : List α
  result : Int

/-- `BIO_to_Buffer`: the contents of the buffer, and what stays in the BIO. -/
def bioToBuffer {α : Type} (result : Int) (bio : List α) (olen : Nat) : List α × List α :=
  let pending := bio.length
  if result ≠ 0 then
    let len := if pending < olen then pending else olen
    -- flushing a memory BIO does nothing
    (bio.take len, bio.drop len)
  else ([], bio)

/-- Print a field and read it back. -/
def printField {α : Type} (field : Print α) (bio : List α) (olen : Nat) : List α × List α :=
  bioToBuffer field.result (bio ++ field.written) olen

/-- `Tls_x509Names`; a name may be `NULL`. -/
def tlsX509Names {α : Type} : List (Option (Print α)) → List α → List (List α) × List α
  | [], bio => ([], bio)
  | name :: names, bio =>
      let (value, bio) :=
        match name with
        | some name => printField name bio 1024
        | none => bioToBuffer 0 bio 1024
      let (values, bio) := tlsX509Names names bio
      (value :: values, bio)

/-! ## The certificate -/

/-- What printing the fields of a certificate does, with `certificate` for the PEM
text and `all` for the full dump. -/
structure X509 (α : Type) where
  serialNumber : Print α
  issuer : Print α
  notBefore : Print α
  notAfter : Print α
  subject : Print α
  subjectAltName : List (Option (Print α))
  issuerAltName : List (Option (Print α))
  certificate : Print α
  all : Print α

/-- The values of these fields in the result. -/
structure X509Values (α : Type) where
  serialNumber : List α
  issuer : List α
  notBefore : List α
  notAfter : List α
  subject : List α
  subjectAltName : List (List α)
  issuerAltName : List (List α)
  certificate : Option (List α)
  all : Option (List α)

/-- `Tls_NewX509Obj`, as far as its BIO is concerned. -/
def tlsNewX509Obj {α : Type} (cert : X509 α) (all : Bool) : X509Values α :=
  let (serialNumber, bio) := printField cert.serialNumber [] bufsiz
  let (issuer, bio) := printField cert.issuer bio bufsiz
  let (notBefore, bio) := printField cert.notBefore bio bufsiz
  let (notAfter, bio) := printField cert.notAfter bio bufsiz
  let (subject, bio) := printField cert.subject bio bufsiz
  let (subjectAltName, bio) := tlsX509Names cert.subjectAltName bio
  let (issuerAltName, bio) := tlsX509Names cert.issuerAltName bio
  if all then
    let (certificate, bio) := printField cert.certificate bio certStrSize
    let (dump, _) := printField cert.all bio (certStrSize * 2)
    { serialNumber, issuer, notBefore, notAfter, subject, subjectAltName, issuerAltName
      certificate := some certificate, all := some dump }
  else
    { serialNumber, issuer, notBefore, notAfter, subject, subjectAltName, issuerAltName
      certificate := none, all := none }

/-! ## One turn for each field -/

section Turns

variable {α : Type}

def Print.turn (field : Print α) (olen : Nat) : Stream.Turn α where
  written := field.written
  drains := field.result != 0
  room := olen

/-- A `NULL` name prints nothing, and nothing is read. -/
def nameTurn : Option (Print α) → Stream.Turn α
  | some name => name.turn 1024
  | none => ⟨[], false, 1024⟩

/-- The fields in the order in which they are printed. -/
def X509.turns (cert : X509 α) (all : Bool) : List (Stream.Turn α) :=
  [cert.serialNumber.turn bufsiz, cert.issuer.turn bufsiz, cert.notBefore.turn bufsiz,
    cert.notAfter.turn bufsiz, cert.subject.turn bufsiz] ++
    (cert.subjectAltName.map nameTurn ++ (cert.issuerAltName.map nameTurn ++
      if all then [cert.certificate.turn certStrSize, cert.all.turn (certStrSize * 2)] else []))

/-- The values in the same order. -/
def X509Values.toList (values : X509Values α) : List (List α) :=
  [values.serialNumber, values.issuer, values.notBefore, values.notAfter, values.subject] ++
    (values.subjectAltName ++ (values.issuerAltName ++
      (values.certificate.toList ++ values.all.toList)))

theorem take_ite_length (bio : List α) (olen : Nat) :
    bio.take (if bio.length < olen then bio.length else olen) = bio.take olen := by
  split
  next h => rw [List.take_length, List.take_of_length_le (Nat.le_of_lt h)]
  next => rfl

theorem drop_ite_length (bio : List α) (olen : Nat) :
    bio.drop (if bio.length < olen then bio.length else olen) = bio.drop olen := by
  split
  next h => rw [List.drop_length, List.drop_of_length_le (Nat.le_of_lt h)]
  next => rfl

theorem printField_eq (field : Print α) (bio : List α) (olen : Nat) :
    printField field bio olen = (field.turn olen).take bio := by
  rw [printField, bioToBuffer, Stream.Turn.take]
  simp only [Print.turn, take_ite_length, drop_ite_length]
  by_cases h : field.result = 0 <;> simp [h]

theorem tlsX509Names_eq (names : List (Option (Print α))) (bio : List α) :
    tlsX509Names names bio = Stream.turns bio (names.map nameTurn) := by
  induction names generalizing bio with
  | nil => rfl
  | cons name names ih =>
      cases name with
      | none =>
          have htake : (nameTurn (none : Option (Print α))).take bio = (([] : List α), bio) := by
            simp [nameTurn, Stream.Turn.take]
          simp only [tlsX509Names, ih, List.map_cons, Stream.turns, htake]
          rfl
      | some name =>
          simp only [tlsX509Names, ih, List.map_cons, Stream.turns, printField_eq, nameTurn]

/-- The values are what the turns take. -/
theorem toList_tlsNewX509Obj (cert : X509 α) (all : Bool) :
    (tlsNewX509Obj cert all).toList = (Stream.turns [] (cert.turns all)).1 := by
  rw [X509.turns, Stream.turns_append, Stream.turns_append, Stream.turns_append]
  simp only [tlsNewX509Obj, printField_eq, tlsX509Names_eq]
  cases all <;> simp [X509Values.toList, Stream.turns]

end Turns

/-! ## Where the bytes come from -/

/-- The fields, and the alternative names by their number. -/
inductive FieldName where
  | serialNumber
  | issuer
  | notBefore
  | notAfter
  | subject
  | subjectAltName (i : Nat)
  | issuerAltName (i : Nat)
  | certificate
  | all
deriving DecidableEq, Repr

section Labels

variable {α : Type}

/-- Every byte carries the name of the field it is printed for. -/
def Print.label (field : Print α) (name : FieldName) : Print (FieldName × α) where
  written := field.written.map fun byte => (name, byte)
  result := field.result

def labelNames (names : List (Option (Print α))) (name : Nat → FieldName) :
    List (Option (Print (FieldName × α))) :=
  names.zipIdx.map fun (field, i) => field.map (·.label (name i))

def X509.label (cert : X509 α) : X509 (FieldName × α) where
  serialNumber := cert.serialNumber.label .serialNumber
  issuer := cert.issuer.label .issuer
  notBefore := cert.notBefore.label .notBefore
  notAfter := cert.notAfter.label .notAfter
  subject := cert.subject.label .subject
  subjectAltName := labelNames cert.subjectAltName .subjectAltName
  issuerAltName := labelNames cert.issuerAltName .issuerAltName
  certificate := cert.certificate.label .certificate
  all := cert.all.label .all

/-- The value of each field is a prefix of what was printed for it: also by where its
bytes come from. -/
def FieldsSeparate (cert : X509 α) (all : Bool) : Prop :=
  Stream.TakesOwn (tlsNewX509Obj cert.label all).toList (cert.label.turns all)

/-- No field that leaves bytes behind (it prints some and its print function returns
0, or it prints more than its buffer holds) comes before one whose print function
reports success. -/
def NothingLeftBehind (cert : X509 α) (all : Bool) : Prop :=
  (cert.turns all).Pairwise fun t t' => t.LeavesBehind → t'.drains = false

theorem turn_label (field : Print α) (name : FieldName) (olen : Nat) :
    ((field.label name).turn olen).map Prod.snd = field.turn olen := by
  simp [Print.turn, Print.label, Stream.Turn.map, Function.comp_def]

theorem nameTurn_labelNames (names : List (Option (Print α))) (name : Nat → FieldName) :
    ((labelNames names name).map nameTurn).map (Stream.Turn.map Prod.snd) = names.map nameTurn := by
  have hturn : ∀ p : Option (Print α) × Nat,
      (nameTurn (p.1.map (·.label (name p.2)))).map Prod.snd = nameTurn p.1 := by
    rintro ⟨field, i⟩
    cases field with
    | none => rfl
    | some field => exact turn_label field (name i) 1024
  rw [labelNames, List.map_map, List.map_map]
  calc names.zipIdx.map _ = names.zipIdx.map (fun p => nameTurn p.1) :=
        List.map_congr_left fun p _ => hturn p
    _ = (names.zipIdx.map Prod.fst).map nameTurn := by rw [List.map_map]; rfl
    _ = names.map nameTurn := by rw [List.zipIdx_map_fst]

theorem turns_label (cert : X509 α) (all : Bool) :
    (cert.label.turns all).map (Stream.Turn.map Prod.snd) = cert.turns all := by
  simp only [X509.turns, X509.label, List.map_append, nameTurn_labelNames, List.map_cons,
    List.map_nil, turn_label]
  cases all <;> simp [turn_label]

/-- The names of the fields in the order in which they are printed. -/
def X509.fieldNames (cert : X509 α) (all : Bool) : List FieldName :=
  [.serialNumber, .issuer, .notBefore, .notAfter, .subject] ++
    ((cert.subjectAltName.zipIdx.map Prod.snd).map .subjectAltName ++
      ((cert.issuerAltName.zipIdx.map Prod.snd).map .issuerAltName ++
        if all then [.certificate, .all] else []))

theorem nodup_fieldNames (cert : X509 α) (all : Bool) : (cert.fieldNames all).Nodup := by
  have hnumbers : ∀ names : List (Option (Print α)), (names.zipIdx.map Prod.snd).Nodup := by
    intro names
    rw [List.zipIdx_map_snd]
    exact List.nodup_range'
  have hsubject : ((cert.subjectAltName.zipIdx.map Prod.snd).map FieldName.subjectAltName).Nodup :=
    List.Nodup.map (fun _ _ h => FieldName.subjectAltName.inj h) (hnumbers _)
  have hissuer : ((cert.issuerAltName.zipIdx.map Prod.snd).map FieldName.issuerAltName).Nodup :=
    List.Nodup.map (fun _ _ h => FieldName.issuerAltName.inj h) (hnumbers _)
  have hlast : (if all then [FieldName.certificate, .all] else []).Nodup := by
    cases all <;> simp
  rw [X509.fieldNames, List.nodup_append, List.nodup_append, List.nodup_append]
  refine ⟨by simp, ⟨hsubject, ⟨hissuer, hlast, ?_⟩, ?_⟩, ?_⟩
  all_goals cases all <;> simp <;> grind

theorem labels_nameTurn (names : List (Option (Print α))) (name : Nat → FieldName) :
    List.Forall₂ (fun label (t : Stream.Turn (FieldName × α)) => ∀ x ∈ t.written, x.1 = label)
      ((names.zipIdx.map Prod.snd).map name) ((labelNames names name).map nameTurn) := by
  rw [labelNames, List.map_map, List.map_map, List.forall₂_map_left_iff,
    List.forall₂_map_right_iff, List.forall₂_same]
  rintro ⟨field, i⟩ -
  cases field with
  | none => exact List.forall_mem_nil _
  | some field =>
      intro x hx
      obtain ⟨byte, -, rfl⟩ := List.mem_map.mp hx
      rfl

theorem labels_turns (cert : X509 α) (all : Bool) :
    List.Forall₂ (fun label (t : Stream.Turn (FieldName × α)) => ∀ x ∈ t.written, x.1 = label)
      (cert.fieldNames all) (cert.label.turns all) := by
  have hfield : ∀ (field : Print α) name olen, ∀ x ∈ ((field.label name).turn olen).written,
      x.1 = name := by
    intro field name olen x hx
    obtain ⟨byte, -, rfl⟩ := List.mem_map.mp hx
    rfl
  refine List.rel_append ?_ (List.rel_append (labels_nameTurn _ _)
    (List.rel_append (labels_nameTurn _ _) ?_))
  · exact .cons (hfield _ _ _) (.cons (hfield _ _ _) (.cons (hfield _ _ _) (.cons (hfield _ _ _)
      (.cons (hfield _ _ _) .nil))))
  · cases all with
    | false => exact .nil
    | true => exact .cons (hfield _ _ _) (.cons (hfield _ _ _) .nil)

theorem room_turns (cert : X509 α) (all : Bool) : ∀ t ∈ cert.turns all, 0 < t.room := by
  have hname : ∀ names : List (Option (Print α)), ∀ t ∈ names.map nameTurn, 0 < t.room := by
    intro names t ht
    obtain ⟨name, -, rfl⟩ := List.mem_map.mp ht
    cases name <;> exact Nat.succ_pos 1023
  intro t ht
  simp only [X509.turns, List.mem_append] at ht
  rcases ht with ht | ht | ht | ht
  · simp only [List.mem_cons, List.not_mem_nil, or_false] at ht
    rcases ht with rfl | rfl | rfl | rfl | rfl <;> exact Nat.succ_pos _
  · exact hname _ t ht
  · exact hname _ t ht
  · cases all with
    | false => exact absurd ht List.not_mem_nil
    | true =>
        simp only [if_true, List.mem_cons, List.not_mem_nil, or_false] at ht
        rcases ht with rfl | rfl <;> exact Nat.succ_pos _

/-- The labels make no difference to the values. -/
theorem toList_label (cert : X509 α) (all : Bool) :
    (tlsNewX509Obj cert all).toList =
      (tlsNewX509Obj cert.label all).toList.map (List.map Prod.snd) := by
  rw [toList_tlsNewX509Obj, toList_tlsNewX509Obj, ← turns_label]
  have hmap := Stream.turns_map (Prod.snd : FieldName × α → α) [] (cert.label.turns all)
  rw [List.map_nil] at hmap
  rw [hmap]

theorem nothingLeftBehind_label (cert : X509 α) (all : Bool) :
    NothingLeftBehind cert.label all ↔ NothingLeftBehind cert all := by
  unfold NothingLeftBehind
  rw [← turns_label cert all, List.pairwise_map]
  simp only [Stream.leavesBehind_map_iff]
  rfl

theorem fieldsSeparate_iff (cert : X509 α) (all : Bool) :
    FieldsSeparate cert all ↔ NothingLeftBehind cert all := by
  rw [FieldsSeparate, toList_tlsNewX509Obj, ← nothingLeftBehind_label]
  exact Stream.turns_own_iff (room_turns cert.label all)
    (Stream.disjoint_of_labels (labels_turns cert all) (nodup_fieldNames cert all))

/-- **Certificate fields are kept apart** exactly where nothing is left behind for a
later field: the value of each field then comes from what was printed for it. -/
theorem certificate_fields_iff (cert : X509 α) (all : Bool) :
    (tlsNewX509Obj cert all).toList =
        (tlsNewX509Obj cert.label all).toList.map (List.map Prod.snd) ∧
      (FieldsSeparate cert all ↔ NothingLeftBehind cert all) :=
  ⟨toList_label cert all, fieldsSeparate_iff cert all⟩

end Labels

/-- A certificate with short fields and two subject alternative names, the first of
1030 letters "a" and the second a "b". -/
def longNameCertificate : X509 UInt8 where
  serialNumber := ⟨[0x30, 0x31], 2⟩
  issuer := ⟨[0x43, 0x4e], 2⟩
  notBefore := ⟨[0x4a], 1⟩
  notAfter := ⟨[0x46], 1⟩
  subject := ⟨[0x43, 0x4e], 2⟩
  subjectAltName := [some ⟨List.replicate 1030 0x61, 1⟩, some ⟨[0x62], 1⟩]
  issuerAltName := []
  certificate := ⟨[0x2d], 1⟩
  all := ⟨[0x43], 1⟩

/-- The second name begins with the last six letters of the first. -/
theorem certificate_names_mix :
    (tlsNewX509Obj longNameCertificate false).subjectAltName =
        [List.replicate 1024 0x61, List.replicate 6 0x61 ++ [0x62]] ∧
      ¬ FieldsSeparate longNameCertificate false := by
  refine ⟨by decide +kernel, fun h => ?_⟩
  have hlater := (fieldsSeparate_iff longNameCertificate false).mp h
  have hnames := (List.pairwise_append.mp hlater).2.1
  have hlong : (nameTurn (some ⟨List.replicate 1030 (0x61 : UInt8), 1⟩)).LeavesBehind :=
    ⟨List.cons_ne_nil _ _, .inr (by decide +kernel)⟩
  exact Bool.noConfusion ((List.pairwise_cons.mp hnames).1 _ List.mem_cons_self hlong)

end TclTls
