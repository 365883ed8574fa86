import TransparencyLog.Key.KeyFile
import TransparencyLog.Proofs.Curve.P256
import TransparencyLog.Proofs.Der
import TransparencyLog.Proofs.Key.Pem

namespace TransparencyLog

namespace Ecdsa

theorem exists_publicPoint {secret : Nat} (hpos : 0 < secret) (hlt : secret < curve.order) :
    ∃ x y, publicPoint secret = (x, y) ∧
      curve.affine? (curve.smul secret curve.base) = some (x, y) ∧ curve.IsOn x y := by
  obtain ⟨x, y, haffine, hon⟩ :=
    WeierstrassCurve.hasPrimeOrder_p256.exists_isOn_smul hpos hlt
  refine ⟨x, y, ?_, haffine, hon⟩
  rw [publicPoint]
  exact congrArg (·.getD (0, 0)) haffine

end Ecdsa

namespace KeyFile

open Der

theorem read?_wrapped (object parameters key : Bytes) (hobject : isObject object = true)
    (hparameters : parameters = [] ∨ isElement parameters = true)
    (hlength : object.length + parameters.length + key.length < 65000) :
    Wrapped.read? (write sequenceTag (writeNatural 0 ++
      write sequenceTag (write objectTag object ++ parameters) ++ write octetStringTag key)) =
        some ⟨⟨object, parameters⟩, key⟩ := by
  have hversion : writeNatural 0 = write integerTag [0] := rfl
  have hzero : HasRoom [0] := by decide
  have hobjectLength := length_write_le objectTag object
  have halgorithmLength := length_write_le sequenceTag (write objectTag object ++ parameters)
  have hkeyLength := length_write_le octetStringTag key
  have hversionLength := length_write_le integerTag [0]
  rw [List.length_append] at halgorithmLength
  have hroomObject : HasRoom object := by omega
  have hroomKey : HasRoom key := by omega
  have hroomAlgorithm : HasRoom (write objectTag object ++ parameters) := by
    rw [HasRoom, List.length_append]
    omega
  have hroom : HasRoom (write integerTag [0] ++
      (write sequenceTag (write objectTag object ++ parameters) ++ write octetStringTag key)) := by
    rw [List.length_singleton] at hversionLength
    rw [HasRoom, List.length_append, List.length_append]
    omega
  have halgorithm : Algorithm.read? (write objectTag object ++ parameters) =
      some ⟨object, parameters⟩ := by
    rw [Algorithm.read?, expect?_write hroomObject, Option.bind_eq_bind, Option.bind_some]
    dsimp only
    rw [if_pos ⟨hobject, by simpa using hparameters⟩]
    rfl
  simp only [hversion, List.append_assoc, Wrapped.read?, only?_write hroom, expect?_write hzero,
    expect?_write hroomAlgorithm, expect?_write_nil hroomKey, optional?_nil, halgorithm,
    Option.bind_eq_bind, Option.bind_some]
  rfl

theorem readPrivate_seed {seed : Bytes} (h : seed.length = 32) :
    readPrivate (privateOctets (.ed25519 seed h)) = .ok (.ed25519 seed h) := by
  have hroom : HasRoom seed := by omega
  have hwrapped := read?_wrapped ed25519Object [] (write octetStringTag seed) (by decide) (.inl rfl)
    (by
      have hlength := length_write_le octetStringTag seed
      have hobject : ed25519Object.length = 3 := rfl
      rw [List.length_nil, hobject]
      omega)
  rw [List.append_nil] at hwrapped
  rw [privateOctets, readPrivate, hwrapped]
  have hread : readOctetKey ed25519Object (write octetStringTag seed) = .ok (.ed25519 seed h) := by
    rw [readOctetKey, only?_write hroom]
    dsimp only
    rw [if_pos rfl, SigningKey.ofSeed?, dif_pos h]
  exact hread

section Curve

variable {secret x y : Nat}

theorem read?_curveKey {octets point : Bytes} (hlength : octets.length + point.length < 65000) :
    CurveKey.read? (write sequenceTag (writeNatural 1 ++ write octetStringTag octets ++
      write (contextTag 1) (write bitStringTag (0 :: point)))) =
        some ⟨octets, none, some point⟩ := by
  have hversion : writeNatural 1 = write integerTag [1] := rfl
  have hone : HasRoom [1] := by decide
  have hversionLength := length_write_le integerTag [1]
  have hoctetsLength := length_write_le octetStringTag octets
  have hbitsLength := length_write_le bitStringTag (0 :: point)
  have hpointLength := length_write_le (contextTag 1) (write bitStringTag (0 :: point))
  rw [List.length_cons] at hbitsLength hversionLength
  have hroomOctets : HasRoom octets := by omega
  have hroomBits : HasRoom (0 :: point) := by
    rw [HasRoom, List.length_cons]
    omega
  have hroomPoint : HasRoom (write bitStringTag (0 :: point)) := by omega
  have hroom : HasRoom (write integerTag [1] ++ (write octetStringTag octets ++
      write (contextTag 1) (write bitStringTag (0 :: point)))) := by
    rw [HasRoom, List.length_append, List.length_append]
    rw [List.length_nil] at hversionLength
    omega
  have hparameters : contextTag 1 ≠ contextTag 0 := by decide
  simp only [hversion, List.append_assoc, CurveKey.read?, only?_write hroom, expect?_write hone,
    expect?_write hroomOctets, optional?_write_of_ne hparameters, optional?_write hroomPoint,
    Option.bind_eq_bind, Option.bind_some]
  simp [only?_write hroomBits, bitOctets?_zero]

theorem point?_encodeFull (h : WeierstrassCurve.p256.IsOn x y) :
    point? .p256 (WeierstrassCurve.p256.encodeFull x y) = some (x, y) := by
  have hdecode := WeierstrassCurve.decode_encodeFull (by decide) h
  rw [WeierstrassCurve.encodeFull, List.cons_append] at hdecode ⊢
  rw [point?, if_neg (by decide), hdecode]
  rfl

theorem length_encodeFull : (WeierstrassCurve.p256.encodeFull x y).length = 65 := by
  rw [WeierstrassCurve.encodeFull, List.length_append, List.length_cons, Bytes.length_ofNatBE,
    Bytes.length_ofNatBE]
  rfl

/-- The octets of a key on the curve, without its algorithm around it. -/
def curveKeyOctets (secret x y : Nat) : Bytes :=
  write sequenceTag (writeNatural 1 ++ write octetStringTag (Bytes.ofNatBE 32 secret) ++
    write (contextTag 1) (write bitStringTag (0 :: WeierstrassCurve.p256.encodeFull x y)))

theorem length_curveKeyOctets_le : (curveKeyOctets secret x y).length ≤ 200 := by
  have hversion := length_write_le integerTag (naturalOctets 1)
  have hsecret := length_write_le octetStringTag (Bytes.ofNatBE 32 secret)
  have hbits := length_write_le bitStringTag (0 :: WeierstrassCurve.p256.encodeFull x y)
  have hpoint := length_write_le (contextTag 1)
    (write bitStringTag (0 :: WeierstrassCurve.p256.encodeFull x y))
  have hone : (naturalOctets 1).length = 1 := rfl
  rw [hone] at hversion
  rw [Bytes.length_ofNatBE] at hsecret
  rw [List.length_cons, length_encodeFull] at hbits
  refine (length_write_le _ _).trans ?_
  rw [writeNatural, List.length_append, List.length_append]
  omega

theorem readCurve_curveKeyOctets (hpos : 0 < secret) (hlt : secret < WeierstrassCurve.p256.order)
    (haffine : Ecdsa.curve.affine? (Ecdsa.curve.smul secret Ecdsa.curve.base) = some (x, y))
    (hon : WeierstrassCurve.p256.IsOn x y) :
    readCurve (some (.named p256Object)) (curveKeyOctets secret x y) =
      .ok (.ecdsaP256 secret hpos hlt) := by
  have hfields : CurveKey.read? (curveKeyOctets secret x y) =
      some ⟨Bytes.ofNatBE 32 secret, none, some (WeierstrassCurve.p256.encodeFull x y)⟩ :=
    read?_curveKey (by
      rw [length_encodeFull, Bytes.length_ofNatBE]
      decide)
  have hsecret : Bytes.toNatBE (Bytes.ofNatBE 32 secret) = secret :=
    Bytes.toNatBE_ofNatBE (hlt.trans (by decide))
  have hlength : (Bytes.ofNatBE 32 secret).length = NamedCurve.p256.octets :=
    Bytes.length_ofNatBE 32 secret
  have hmatching : matching .p256 secret (some (WeierstrassCurve.p256.encodeFull x y)) = true := by
    rw [matching, if_pos ⟨hpos, hlt⟩, point?_encodeFull hon]
    exact decide_eq_true haffine
  have hcurve : CurveParameters.curve? (.named p256Object) = some .p256 := rfl
  rw [readCurve, hfields]
  dsimp only [agreed?]
  rw [hcurve]
  dsimp only [CurveKey.signingKey]
  rw [if_neg (by rw [hlength]; simp), hsecret, if_pos hmatching, SigningKey.ofSecret?,
    dif_pos ⟨hpos, hlt⟩]

theorem readPrivate_secret (hpos : 0 < secret) (hlt : secret < WeierstrassCurve.p256.order) :
    readPrivate (privateOctets (.ecdsaP256 secret hpos hlt)) =
      .ok (.ecdsaP256 secret hpos hlt) := by
  obtain ⟨x, y, hpoint, haffine, hon⟩ := Ecdsa.exists_publicPoint hpos hlt
  have hwrapped := read?_wrapped curveKeyObject (write objectTag p256Object)
    (curveKeyOctets secret x y) (by decide)
    (.inr (by decide)) (by
      have hlength := @length_curveKeyOctets_le secret x y
      have hobject : curveKeyObject.length = 7 ∧ (write objectTag p256Object).length = 10 :=
        ⟨rfl, rfl⟩
      omega)
  have hoctets : privateOctets (.ecdsaP256 secret hpos hlt) = write sequenceTag (writeNatural 0 ++
      write sequenceTag (write objectTag curveKeyObject ++ write objectTag p256Object) ++
      write octetStringTag (curveKeyOctets secret x y)) := by
    rw [privateOctets, hpoint]
    rfl
  have hparameters :
      CurveParameters.read? (write objectTag p256Object) = some (.named p256Object) := by
    decide
  rw [readPrivate, hoctets, hwrapped]
  dsimp only
  rw [if_pos rfl, hparameters]
  exact readCurve_curveKeyOctets hpos hlt haffine hon

end Curve

theorem readPrivate_privateOctets (key : SigningKey) :
    readPrivate (privateOctets key) = .ok key := by
  cases key with
  | ed25519 seed h => exact readPrivate_seed h
  | ecdsaP256 secret hpos hlt => exact readPrivate_secret hpos hlt

theorem isLabel_privateLabel : Pem.IsLabel privateLabel where
  ne_empty := by decide
  ascii := by simp [privateLabel]
  dash := by simp [privateLabel]

theorem read_privateText (key : SigningKey) : read (privateText key) = .ok key := by
  have hreader : reader? privateLabel = some readPrivate := if_pos rfl
  have hheader : headerFault? ⟨privateLabel, [], privateOctets key⟩ = none := rfl
  rw [read, privateText, Pem.read?_write isLabel_privateLabel]
  dsimp only
  rw [List.findSome?_cons, hreader, Option.map_some, readBlock, hheader]
  exact readPrivate_privateOctets key

end KeyFile

end TransparencyLog
