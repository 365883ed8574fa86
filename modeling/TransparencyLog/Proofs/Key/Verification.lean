import TransparencyLog.Key.Verification

namespace TransparencyLog

theorem Scheme.ofName?_eq_none_iff {name : LooseText} :
    ofName? name = none ↔ name ∉ (["ed25519", "ecdsa-p256"] : List LooseText) := by
  unfold ofName?
  split
  · simp [*]
  · split
    · simp [*]
    · simp [*]

theorem Scheme.ofName?_eq_some_iff {name : LooseText} {scheme : Scheme} :
    ofName? name = some scheme ↔ name = scheme.name := by
  constructor
  · intro h
    unfold ofName? at h
    split at h
    · rename_i hname
      obtain rfl := Option.some.inj h
      exact hname
    · split at h
      · rename_i hname
        obtain rfl := Option.some.inj h
        exact hname
      · cases h
  · rintro rfl
    exact ofName?_name scheme

namespace PublicKey

/-- A signature text spells octets under the algorithm of the key, and they fit the key, which can
be used, and the message. -/
structure Accepts (suite : SignatureSuite) (key : PublicKey) (message : Bytes) (signature : Value)
    (octets : Bytes) : Prop where
  decodes : decodeSignatureValue signature = .ok (key.algorithm, octets)
  fits : ∃ scheme, key.load suite = .ok scheme ∧
    suite.accepts scheme key.octets octets message = true

/-- Why a key does not accept a signature over a message, the first reason first: the key is of an
algorithm that is not verified, the signature cannot be decoded or is of another algorithm, the
octets of the key cannot be used, or those of the signature do not fit. -/
inductive Refuses (suite : SignatureSuite) (key : PublicKey) (message : Bytes) (signature : Value) :
    VerificationFault → Prop
  | unsupported (h : key.algorithm ∉ (["ed25519", "ecdsa-p256"] : List LooseText)) :
      Refuses suite key message signature (.unsupported key.algorithm)
  | undecodable {scheme : Scheme} {fault : SignatureFault} (hscheme : key.algorithm = scheme.name)
      (h : decodeSignatureValue signature = .error fault) :
      Refuses suite key message signature (.signature fault)
  | otherAlgorithm {scheme : Scheme} {algorithm : LooseText} {octets : Bytes}
      (hscheme : key.algorithm = scheme.name)
      (hdecodes : decodeSignatureValue signature = .ok (algorithm, octets))
      (h : algorithm ≠ key.algorithm) :
      Refuses suite key message signature (.signature (.otherAlgorithm algorithm key.algorithm))
  | unusableKey {octets : Bytes} {fault : MaterialFault}
      (hdecodes : decodeSignatureValue signature = .ok (key.algorithm, octets))
      (h : key.load suite = .error (.material fault)) :
      Refuses suite key message signature (.signature (.unusableKey fault))
  | mismatch {scheme : Scheme} {octets : Bytes}
      (hdecodes : decodeSignatureValue signature = .ok (key.algorithm, octets))
      (hload : key.load suite = .ok scheme)
      (h : suite.accepts scheme key.octets octets message = false) :
      Refuses suite key message signature (.signature .mismatch)

variable {suite : SignatureSuite} {key : PublicKey} {message octets : Bytes} {signature : Value}

theorem scheme?_eq_some_iff {scheme : Scheme} :
    key.scheme? = some scheme ↔ key.algorithm = scheme.name :=
  Scheme.ofName?_eq_some_iff

theorem load_eq_material_iff {fault : MaterialFault} :
    key.load suite = .error (.material fault) ↔
      ∃ scheme,
        key.scheme? = some scheme ∧ materialFault? suite key.octets scheme = some fault := by
  unfold load
  cases key.scheme? with
  | none => simp
  | some scheme =>
      dsimp only
      cases hmaterial : materialFault? suite key.octets scheme with
      | none => simp [hmaterial]
      | some fault' => simp [hmaterial]

theorem load_eq_ok_iff {scheme : Scheme} :
    key.load suite = .ok scheme ↔
      key.scheme? = some scheme ∧ materialFault? suite key.octets scheme = none := by
  unfold load
  cases hscheme : key.scheme? with
  | none => simp
  | some scheme' =>
      dsimp only
      cases hmaterial : materialFault? suite key.octets scheme' with
      | none =>
          constructor
          · rintro h
            obtain rfl := Except.ok.inj h
            exact ⟨rfl, hmaterial⟩
          · rintro ⟨h, -⟩
            rw [Option.some.inj h]
      | some fault =>
          simp only [reduceCtorEq, Option.some.injEq, false_iff, not_and]
          rintro rfl
          simp [hmaterial]

theorem verify_of_unsupported (h : key.scheme? = none) :
    key.verify suite message signature = .error (.unsupported key.algorithm) := by
  rw [verify, h]

theorem Accepts.exists_eq_str (h : key.Accepts suite message signature octets) :
    ∃ text, signature = .str text ∧ text ≠ "" := by
  have hdecodes := h.decodes
  cases signature with
  | str text =>
      refine ⟨text, rfl, ?_⟩
      rintro rfl
      cases hdecodes
  | _ => cases hdecodes

theorem verify_eq_ok_iff :
    key.verify suite message signature = .ok octets ↔
      key.Accepts suite message signature octets := by
  constructor
  · intro h
    unfold verify at h
    split at h
    · cases h
    · rename_i scheme hscheme
      split at h
      · cases h
      · rename_i algorithm octets' hdecodes
        split at h
        · cases h
        · rename_i halgorithm
          split at h
          · cases h
          · rename_i hmaterial
            split at h
            · rename_i haccepts
              obtain rfl := Except.ok.inj h
              rw [ne_eq, Decidable.not_not] at halgorithm
              exact ⟨halgorithm ▸ hdecodes, scheme, load_eq_ok_iff.mpr ⟨hscheme, hmaterial⟩,
                haccepts⟩
            · cases h
  · rintro ⟨hdecodes, scheme, hload, haccepts⟩
    obtain ⟨hscheme, hmaterial⟩ := load_eq_ok_iff.mp hload
    rw [verify, hscheme]
    dsimp only
    rw [hdecodes]
    dsimp only
    rw [if_neg (by simp), hmaterial]
    dsimp only
    rw [if_pos haccepts]

theorem Refuses.verify_eq {fault : VerificationFault}
    (h : key.Refuses suite message signature fault) :
    key.verify suite message signature = .error fault := by
  cases h with
  | unsupported hname => exact verify_of_unsupported (Scheme.ofName?_eq_none_iff.mpr hname)
  | undecodable hscheme h =>
      rw [verify, scheme?_eq_some_iff.mpr hscheme]
      dsimp only
      rw [h]
  | otherAlgorithm hscheme hdecodes h =>
      rw [verify, scheme?_eq_some_iff.mpr hscheme]
      dsimp only
      rw [hdecodes]
      dsimp only
      rw [if_pos h]
  | unusableKey hdecodes h =>
      obtain ⟨scheme, hscheme, hmaterial⟩ := load_eq_material_iff.mp h
      rw [verify, hscheme]
      dsimp only
      rw [hdecodes]
      dsimp only
      rw [if_neg (by simp), hmaterial]
  | mismatch hdecodes hload h =>
      obtain ⟨hscheme, hmaterial⟩ := load_eq_ok_iff.mp hload
      rw [verify, hscheme]
      dsimp only
      rw [hdecodes]
      dsimp only
      rw [if_neg (by simp), hmaterial]
      dsimp only
      rw [if_neg (by simp [h])]

theorem accepts_or_refuses (suite : SignatureSuite) (key : PublicKey) (message : Bytes)
    (signature : Value) :
    (∃ octets, key.Accepts suite message signature octets) ∨
      ∃ fault, key.Refuses suite message signature fault := by
  cases hscheme : key.scheme? with
  | none => exact .inr ⟨_, .unsupported (Scheme.ofName?_eq_none_iff.mp hscheme)⟩
  | some scheme =>
      have hname := scheme?_eq_some_iff.mp hscheme
      cases hdecodes : decodeSignatureValue signature with
      | error fault => exact .inr ⟨_, .undecodable hname hdecodes⟩
      | ok pair =>
          obtain ⟨algorithm, octets⟩ := pair
          by_cases halgorithm : algorithm = key.algorithm
          · subst halgorithm
            cases hmaterial : materialFault? suite key.octets scheme with
            | some fault =>
                have hload := load_eq_material_iff.mpr ⟨scheme, hscheme, hmaterial⟩
                exact .inr ⟨_, .unusableKey hdecodes hload⟩
            | none =>
                have hload := load_eq_ok_iff.mpr ⟨hscheme, hmaterial⟩
                cases haccepts : suite.accepts scheme key.octets octets message with
                | true => exact .inl ⟨octets, hdecodes, scheme, hload, haccepts⟩
                | false => exact .inr ⟨_, .mismatch hdecodes hload haccepts⟩
          · exact .inr ⟨_, .otherAlgorithm hname hdecodes halgorithm⟩

theorem verify_eq_error_iff {fault : VerificationFault} :
    key.verify suite message signature = .error fault ↔
      key.Refuses suite message signature fault := by
  constructor
  · intro h
    rcases accepts_or_refuses suite key message signature with ⟨octets, haccepts⟩ | ⟨other, hother⟩
    · rw [verify_eq_ok_iff.mpr haccepts] at h
      cases h
    · obtain rfl := Except.error.inj (hother.verify_eq.symm.trans h)
      exact hother
  · exact Refuses.verify_eq

theorem exists_verify_eq_signature {scheme : Scheme} {fault : VerificationFault}
    (hscheme : key.scheme? = some scheme)
    (h : key.verify suite message signature = .error fault) :
    ∃ cause, fault = .signature cause := by
  cases verify_eq_error_iff.mp h with
  | unsupported hname =>
      rw [scheme?, Scheme.ofName?_eq_none_iff.mpr hname] at hscheme
      cases hscheme
  | _ => exact ⟨_, rfl⟩

end PublicKey

end TransparencyLog
