import TclTls.Failure

/-!
# TclTls.Extensions

The extensions of a certificate that `Tls_NewX509Obj` turns into lists: the two usage
words, the CRL distribution points and the access descriptions.

What the library hands out may lack a part, and each of the three has one that the code
takes for granted:

* `usage_reports_iff` — the extended usage is read where the key usage is present too;
* `crlDp_complete_iff` — every distribution point is taken to have its name;
* `caIssuers_complete_iff` — the first URI is taken to convert, and to be the only one.
-/

namespace TclTls

/-! ## Usage words -/

/-- `UINT32_MAX`, which the library returns for the word of an extension that is absent. -/
def uint32Max : UInt32 := 0xffffffff

/-- `EXFLAG_KUSAGE` -/
def exflagKusage : UInt32 := 0x2

/-- `EXFLAG_XKUSAGE` -/
def exflagXkusage : UInt32 := 0x4

/-- The words of a certificate.  The flag of a usage extension is set where the
certificate has the extension. -/
structure UsageWords where
  xflags : UInt32
  keyUsage : UInt32
  extKeyUsage : UInt32
  keyUsage_absent_iff : keyUsage = uint32Max ↔ xflags &&& exflagKusage = 0
  extKeyUsage_absent_iff : extKeyUsage = uint32Max ↔ xflags &&& exflagXkusage = 0

/-- A bit of a usage word, and the name of that usage. -/
structure UsageBit where
  mask : UInt32
  name : String

/-- The `KU_` bits, in the order of the tests in `Tls_x509KeyUsage`. -/
def keyUsageBits : List UsageBit :=
  [⟨0x0080, "Digital Signature"⟩, ⟨0x0040, "Non-Repudiation"⟩, ⟨0x0020, "Key Encipherment"⟩,
    ⟨0x0010, "Data Encipherment"⟩, ⟨0x0008, "Key Agreement"⟩, ⟨0x0004, "Certificate Signing"⟩,
    ⟨0x0002, "CRL Signing"⟩, ⟨0x0001, "Encipher Only"⟩, ⟨0x8000, "Decipher Only"⟩]

/-- The `XKU_` bits, in the order of the tests in `Tls_x509ExtKeyUsage`. -/
def extKeyUsageBits : List UsageBit :=
  [⟨0x1, "TLS Web Server Authentication"⟩, ⟨0x2, "TLS Web Client Authentication"⟩,
    ⟨0x4, "E-mail Protection"⟩, ⟨0x8, "Code Signing"⟩, ⟨0x10, "SGC"⟩, ⟨0x20, "OCSP Signing"⟩,
    ⟨0x40, "Time Stamping"⟩, ⟨0x80, "DVCS"⟩, ⟨0x100, "Any Extended Key Usage"⟩]

/-- One test after the other, each of which may append a name. -/
def appendUsages (usage : UInt32) (resultObj : List String) : List UsageBit → List String
  | [] => resultObj
  | bit :: bits =>
      if usage &&& bit.mask ≠ 0 then appendUsages usage (resultObj ++ [bit.name]) bits
      else appendUsages usage resultObj bits

/-- `Tls_x509KeyUsage` -/
def tlsX509KeyUsage (cert : UsageWords) (xflags : UInt32) : List String :=
  let usage := cert.keyUsage
  if xflags &&& exflagKusage ≠ 0 ∧ usage < uint32Max then appendUsages usage [] keyUsageBits
  else ["unrestricted"]

/-- `Tls_x509ExtKeyUsage`.  The word that is compared with `UINT32_MAX` is the key usage;
the extended one is read behind the comparison. -/
def tlsX509ExtKeyUsage (cert : UsageWords) (xflags : UInt32) : List String :=
  let usage := cert.keyUsage
  if xflags &&& exflagXkusage ≠ 0 ∧ usage < uint32Max then
    appendUsages cert.extKeyUsage [] extKeyUsageBits
  else ["unrestricted"]

/-- The names of the bits that are set. -/
def usageNames (bits : List UsageBit) (usage : UInt32) : List String :=
  (bits.filter fun bit => usage &&& bit.mask ≠ 0).map UsageBit.name

/-- A report says `unrestricted` exactly when its extension is absent, and else names the
usages of the extension's own word. -/
def ReportsUsage (bits : List UsageBit) (usage : UInt32) (report : List String) : Prop :=
  (report = ["unrestricted"] ↔ usage = uint32Max) ∧
    (usage ≠ uint32Max → report = usageNames bits usage)

theorem appendUsages_eq (usage : UInt32) (resultObj : List String) (bits : List UsageBit) :
    appendUsages usage resultObj bits = resultObj ++ usageNames bits usage := by
  induction bits generalizing resultObj with
  | nil => simp [appendUsages, usageNames]
  | cons bit bits ih =>
      rw [appendUsages]
      by_cases hbit : usage &&& bit.mask = 0
      · have hnames : usageNames (bit :: bits) usage = usageNames bits usage := by
          simp [usageNames, hbit]
        rw [if_neg (not_not_intro hbit), ih, hnames]
      · have hnames : usageNames (bit :: bits) usage = bit.name :: usageNames bits usage := by
          simp [usageNames, hbit]
        rw [if_pos hbit, ih, hnames, List.append_assoc, List.singleton_append]

theorem lt_uint32Max_iff (usage : UInt32) : usage < uint32Max ↔ usage ≠ uint32Max := by
  have hmax : uint32Max.toNat = 4294967295 := rfl
  have hlt := usage.toNat_lt
  rw [UInt32.lt_iff_toNat_lt, ne_eq, ← UInt32.toNat_inj, hmax]
  omega

/-- No usage is called `unrestricted`. -/
theorem usageNames_ne_unrestricted {bits : List UsageBit}
    (hbits : ∀ bit ∈ bits, bit.name ≠ "unrestricted") (usage : UInt32) :
    usageNames bits usage ≠ ["unrestricted"] := by
  intro h
  have hmem : "unrestricted" ∈ usageNames bits usage := by
    rw [h]
    exact List.mem_singleton_self _
  obtain ⟨bit, hbit, hname⟩ := List.mem_map.mp hmem
  exact hbits bit (List.mem_filter.mp hbit).1 hname

theorem keyUsageBits_named : ∀ bit ∈ keyUsageBits, bit.name ≠ "unrestricted" := by
  simp [keyUsageBits]

theorem extKeyUsageBits_named : ∀ bit ∈ extKeyUsageBits, bit.name ≠ "unrestricted" := by
  simp [extKeyUsageBits]

theorem reportsUsage_unrestricted_iff (bits : List UsageBit) (usage : UInt32) :
    ReportsUsage bits usage ["unrestricted"] ↔ usage = uint32Max := by
  constructor
  · intro h
    exact h.1.mp rfl
  · intro h
    exact ⟨iff_of_true rfl h, fun hne => absurd h hne⟩

theorem reportsUsage_names_iff {bits : List UsageBit}
    (hbits : ∀ bit ∈ bits, bit.name ≠ "unrestricted") (usage : UInt32) :
    ReportsUsage bits usage (usageNames bits usage) ↔ usage ≠ uint32Max := by
  have hne := usageNames_ne_unrestricted hbits usage
  constructor
  · intro h habsent
    exact hne (h.1.mpr habsent)
  · intro h
    exact ⟨iff_of_false hne h, fun _ => rfl⟩

theorem tlsX509KeyUsage_eq (cert : UsageWords) :
    tlsX509KeyUsage cert cert.xflags =
      if cert.keyUsage = uint32Max then ["unrestricted"]
      else usageNames keyUsageBits cert.keyUsage := by
  have hflag := cert.keyUsage_absent_iff
  have hword := lt_uint32Max_iff cert.keyUsage
  rw [tlsX509KeyUsage, appendUsages_eq, List.nil_append]
  by_cases habsent : cert.keyUsage = uint32Max
  · rw [if_pos habsent, if_neg (by grind)]
  · rw [if_neg habsent, if_pos (by grind)]

theorem tlsX509ExtKeyUsage_eq (cert : UsageWords) :
    tlsX509ExtKeyUsage cert cert.xflags =
      if cert.extKeyUsage = uint32Max ∨ cert.keyUsage = uint32Max then ["unrestricted"]
      else usageNames extKeyUsageBits cert.extKeyUsage := by
  have hflag := cert.extKeyUsage_absent_iff
  have hword := lt_uint32Max_iff cert.keyUsage
  rw [tlsX509ExtKeyUsage, appendUsages_eq, List.nil_append]
  by_cases habsent : cert.extKeyUsage = uint32Max ∨ cert.keyUsage = uint32Max
  · rw [if_pos habsent, if_neg (by grind)]
  · rw [if_neg habsent, if_pos (by grind)]

/-- The report of the key usage depends on the key usage alone, and is right. -/
theorem keyUsage_reported (cert : UsageWords) :
    ReportsUsage keyUsageBits cert.keyUsage (tlsX509KeyUsage cert cert.xflags) := by
  rw [tlsX509KeyUsage_eq]
  split
  next habsent => exact (reportsUsage_unrestricted_iff _ _).mpr habsent
  next hpresent => exact (reportsUsage_names_iff keyUsageBits_named _).mpr hpresent

theorem extKeyUsage_reported_iff (cert : UsageWords) :
    ReportsUsage extKeyUsageBits cert.extKeyUsage (tlsX509ExtKeyUsage cert cert.xflags) ↔
      cert.extKeyUsage = uint32Max ∨ cert.keyUsage ≠ uint32Max := by
  rw [tlsX509ExtKeyUsage_eq]
  split
  next habsent =>
    rw [reportsUsage_unrestricted_iff]
    grind
  next hpresent =>
    rw [reportsUsage_names_iff extKeyUsageBits_named]
    grind

/-- **Both usages are reported** exactly where the extended key usage is absent or the key
usage is present beside it. -/
theorem usage_reports_iff (cert : UsageWords) :
    ReportsUsage extKeyUsageBits cert.extKeyUsage (tlsX509ExtKeyUsage cert cert.xflags) ∧
        ReportsUsage keyUsageBits cert.keyUsage (tlsX509KeyUsage cert cert.xflags) ↔
      cert.xflags &&& exflagXkusage = 0 ∨ cert.xflags &&& exflagKusage ≠ 0 := by
  rw [← cert.extKeyUsage_absent_iff, ne_eq, ← cert.keyUsage_absent_iff,
    extKeyUsage_reported_iff]
  exact and_iff_left (keyUsage_reported cert)

/-- A certificate for servers only, without the key usage extension. -/
def serverOnlyCertificate : UsageWords where
  xflags := exflagXkusage
  keyUsage := uint32Max
  extKeyUsage := 0x1
  keyUsage_absent_iff := by decide
  extKeyUsage_absent_iff := by decide

theorem restricted_reported_unrestricted :
    tlsX509ExtKeyUsage serverOnlyCertificate serverOnlyCertificate.xflags = ["unrestricted"] ∧
      ¬ (ReportsUsage extKeyUsageBits serverOnlyCertificate.extKeyUsage
            (tlsX509ExtKeyUsage serverOnlyCertificate serverOnlyCertificate.xflags) ∧
          ReportsUsage keyUsageBits serverOnlyCertificate.keyUsage
            (tlsX509KeyUsage serverOnlyCertificate serverOnlyCertificate.xflags)) := by
  have hreport : tlsX509ExtKeyUsage serverOnlyCertificate serverOnlyCertificate.xflags =
      ["unrestricted"] := by decide +kernel
  refine ⟨hreport, fun h => ?_⟩
  have habsent := h.1.1.mp hreport
  exact absurd habsent (by decide)

/-! ## General names -/

/-- The `GEN_` types. -/
inductive GenType where
  | othername
  | email
  | dns
  | x400
  | dirname
  | ediparty
  | uri
  | ipadd
  | rid
deriving DecidableEq, Repr

/-- A general name, with the bytes that `GENERAL_NAME_get0_value` points to. -/
structure GeneralName where
  type : GenType
  value : List UInt8
deriving DecidableEq, Repr

/-! ## CRL distribution points -/

/-- `DIST_POINT_NAME`: a full name, or the data of the entries of a relative one. -/
inductive DistPointName where
  | fullname (names : List GeneralName)
  | relativename (entries : List (List UInt8))
deriving DecidableEq, Repr

/-- A distribution point; the pointer to its name may be `NULL`. -/
structure DistPoint where
  distpoint : Option DistPointName
deriving DecidableEq, Repr

/-- The loop over the names of a full name. -/
def appendUris (resultObj : List (List UInt8)) : List GeneralName → List (List UInt8)
  | [] => resultObj
  | gen :: names =>
      if gen.type = .uri then appendUris (resultObj ++ [gen.value]) names
      else appendUris resultObj names

/-- The loop over the entries of a relative name. -/
def appendEntries (resultObj : List (List UInt8)) : List (List UInt8) → List (List UInt8)
  | [] => resultObj
  | d :: entries => appendEntries (resultObj ++ [d]) entries

/-- The loop over the distribution points; `none` where it reads through a null
pointer. -/
def crlDpLoop (resultObj : List (List UInt8)) : List DistPoint → Option (List (List UInt8))
  | [] => some resultObj
  | dp :: crl =>
      match dp.distpoint with
      -- the type of the name is read before anything is known of the pointer
      | none => none
      | some (.fullname names) => crlDpLoop (appendUris resultObj names) crl
      | some (.relativename entries) => crlDpLoop (appendEntries resultObj entries) crl

/-- `Tls_x509CrlDp`, for the list that `X509_get_ext_d2i` returns. -/
def tlsX509CrlDp (crl : Option (List DistPoint)) : Option (List (List UInt8)) :=
  match crl with
  | some crl => crlDpLoop [] crl
  | none => some []

/-- The URIs of a full name and the entries of a relative one. -/
def DistPointName.values : DistPointName → List (List UInt8)
  | .fullname names => (names.filter fun gen => gen.type = .uri).map GeneralName.value
  | .relativename entries => entries

/-- What the points that have a name point to, in order. -/
def distPointValues (crl : List DistPoint) : List (List UInt8) :=
  (crl.filterMap DistPoint.distpoint).flatMap DistPointName.values

theorem appendUris_eq (resultObj : List (List UInt8)) (names : List GeneralName) :
    appendUris resultObj names = resultObj ++ (DistPointName.fullname names).values := by
  induction names generalizing resultObj with
  | nil => simp [appendUris, DistPointName.values]
  | cons gen names ih =>
      rw [appendUris]
      by_cases huri : gen.type = .uri
      · rw [if_pos huri, ih]
        simp [DistPointName.values, huri]
      · rw [if_neg huri, ih]
        simp [DistPointName.values, huri]

theorem appendEntries_eq (resultObj entries : List (List UInt8)) :
    appendEntries resultObj entries = resultObj ++ (DistPointName.relativename entries).values := by
  induction entries generalizing resultObj with
  | nil => simp [appendEntries, DistPointName.values]
  | cons d entries ih =>
      rw [appendEntries, ih]
      simp [DistPointName.values]

/-- One point with its name. -/
theorem crlDpLoop_cons (resultObj : List (List UInt8)) (name : DistPointName)
    (crl : List DistPoint) :
    crlDpLoop resultObj (⟨some name⟩ :: crl) = crlDpLoop (resultObj ++ name.values) crl := by
  cases name with
  | fullname names =>
      rw [← appendUris_eq]
      rfl
  | relativename entries =>
      rw [← appendEntries_eq]
      rfl

/-- The loop gets past the points exactly when all have their names. -/
theorem crlDpLoop_eq (resultObj : List (List UInt8)) (crl : List DistPoint) :
    crlDpLoop resultObj crl =
      if ∀ dp ∈ crl, dp.distpoint ≠ none then some (resultObj ++ distPointValues crl)
      else none := by
  induction crl generalizing resultObj with
  | nil => simp [crlDpLoop, distPointValues]
  | cons dp crl ih =>
      obtain ⟨distpoint⟩ := dp
      cases distpoint with
      | none => simp [crlDpLoop]
      | some name =>
          have hvalues : distPointValues (⟨some name⟩ :: crl) =
              name.values ++ distPointValues crl := by
            simp [distPointValues]
          rw [crlDpLoop_cons, ih, hvalues, List.append_assoc]
          simp

/-- **Distribution points are read completely and safely** exactly where each of them has
the field that is optional. -/
theorem crlDp_complete_iff (crl : Option (List DistPoint)) :
    tlsX509CrlDp crl = some (distPointValues (crl.getD [])) ↔
      ∀ dp ∈ crl.getD [], dp.distpoint ≠ none := by
  cases crl with
  | none => simp [tlsX509CrlDp, distPointValues]
  | some crl =>
      rw [tlsX509CrlDp, crlDpLoop_eq, List.nil_append, Option.getD_some]
      split
      next hall => exact iff_of_true rfl hall
      next hmissing => exact iff_of_false (Option.some_ne_none _).symm hmissing

/-- A point without its name, as one that has a CRL issuer instead. -/
theorem crlDp_follows_null :
    tlsX509CrlDp (some [⟨none⟩]) = none ∧
      tlsX509CrlDp (some [⟨none⟩]) ≠ some (distPointValues [⟨none⟩]) := by
  decide +kernel

/-! ## Access descriptions -/

/-- `NID_ad_ca_issuers` -/
def nidAdCaIssuers : Nat := 179

/-- An access description: the identifier of its method, the location, which may be
`NULL`, and what `ASN1_STRING_to_UTF8` makes of the location, with `none` for a
conversion that fails. -/
structure AccessDescription where
  method : Nat
  location : Option GenType
  toUTF8 : Option (List UInt8)
deriving DecidableEq, Repr

/-- The loop of `Tls_x509CaIssuers`; `none` where it uses a buffer that no conversion has
set. -/
def caIssuersLoop (resultObj : List (List UInt8)) :
    List AccessDescription → Option (List (List UInt8))
  | [] => some resultObj
  | ad :: ads =>
      if ad.method = nidAdCaIssuers then
        match ad.location with
        | none => caIssuersLoop resultObj ads
        | some type =>
            if type = .uri then
              match ad.toUTF8 with
              -- the loop ends here, also where there are more descriptions
              | some buf => some (resultObj ++ [buf])
              -- a failed conversion returns a length of -1 and leaves `buf` as it was
              | none => none
            else caIssuersLoop resultObj ads
      else caIssuersLoop resultObj ads

/-- `Tls_x509CaIssuers`, for the list that `X509_get_ext_d2i` returns. -/
def tlsX509CaIssuers (ads : Option (List AccessDescription)) : Option (List (List UInt8)) :=
  match ads with
  | some ads => caIssuersLoop [] ads
  | none => some []

/-- The description gives the URI of a CA issuer. -/
def AccessDescription.IsCaIssuer (ad : AccessDescription) : Prop :=
  ad.method = nidAdCaIssuers ∧ ad.location = some .uri

instance : DecidablePred AccessDescription.IsCaIssuer := fun _ =>
  inferInstanceAs (Decidable (_ ∧ _))

/-- The descriptions of CA issuers that are URIs. -/
def caIssuers (ads : List AccessDescription) : List AccessDescription :=
  ads.filter fun ad => ad.IsCaIssuer

/-- The URIs of all CA issuers that convert. -/
def caIssuerUris (ads : List AccessDescription) : List (List UInt8) :=
  (caIssuers ads).filterMap AccessDescription.toUTF8

/-- The loop looks at the first issuer only. -/
theorem caIssuersLoop_eq (resultObj : List (List UInt8)) (ads : List AccessDescription) :
    caIssuersLoop resultObj ads =
      match caIssuers ads with
      | [] => some resultObj
      | ad :: _ => ad.toUTF8.map fun buf => resultObj ++ [buf] := by
  induction ads with
  | nil => rfl
  | cons ad ads ih =>
      obtain ⟨method, location, toUTF8⟩ := ad
      by_cases hissuer : AccessDescription.IsCaIssuer ⟨method, location, toUTF8⟩
      · obtain ⟨rfl, rfl⟩ : method = nidAdCaIssuers ∧ location = some .uri := hissuer
        cases toUTF8 <;> rfl
      · have hskip : caIssuers (⟨method, location, toUTF8⟩ :: ads) = caIssuers ads := by
          simp [caIssuers, hissuer]
        rw [hskip, ← ih, caIssuersLoop]
        grind [AccessDescription.IsCaIssuer]

/-- The first issuer converts, and is the only one that does. -/
def OnlyFirstConverts : List AccessDescription → Prop
  | [] => True
  | ad :: later => ad.toUTF8 ≠ none ∧ ∀ ad' ∈ later, ad'.toUTF8 = none

/-- **CA issuers are complete**, and no buffer is used that is not set, exactly where there
is no issuer or only the first of them converts. -/
theorem caIssuers_complete_iff (ads : Option (List AccessDescription)) :
    tlsX509CaIssuers ads = some (caIssuerUris (ads.getD [])) ↔
      OnlyFirstConverts (caIssuers (ads.getD [])) := by
  cases ads with
  | none => exact iff_of_true rfl trivial
  | some ads =>
      rw [tlsX509CaIssuers, caIssuersLoop_eq, Option.getD_some, caIssuerUris]
      cases caIssuers ads with
      | nil => exact iff_of_true rfl trivial
      | cons ad later =>
          cases hfirst : ad.toUTF8 with
          | none => simp [OnlyFirstConverts, hfirst]
          | some buf =>
              have hlater : later.filterMap AccessDescription.toUTF8 = [] ↔
                  ∀ ad' ∈ later, ad'.toUTF8 = none := List.filterMap_eq_nil_iff
              have hvalues : [buf] = buf :: later.filterMap AccessDescription.toUTF8 ↔
                  later.filterMap AccessDescription.toUTF8 = [] := by
                rw [List.cons.injEq, eq_comm (a := [])]
                exact and_iff_right rfl
              simp only [OnlyFirstConverts, hfirst, List.filterMap_cons, Option.map_some,
                List.nil_append, Option.some.injEq]
              rw [hvalues, hlater]
              exact (and_iff_right (Option.some_ne_none buf)).symm

/-- Two issuers, of which the second is not listed; and one that does not convert. -/
theorem caIssuers_incomplete :
    tlsX509CaIssuers (some [⟨179, some .uri, some [0x61]⟩, ⟨179, some .uri, some [0x62]⟩]) ≠
        some (caIssuerUris [⟨179, some .uri, some [0x61]⟩, ⟨179, some .uri, some [0x62]⟩]) ∧
      tlsX509CaIssuers (some [⟨179, some .uri, none⟩]) = none := by
  decide +kernel

end TclTls
