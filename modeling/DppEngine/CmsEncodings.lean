import DppEngine.CmsSeals
import DppEngine.PrefixCodes

/-! Codes for the CMS and X.509 structures, each with its reader.

They are not DER, and have what is relied on of DER: every word is self-delimiting and reads back
as the value it was written for. -/
namespace CmsEncodings

open CmsSeals PrefixCodes

section Primitives

def bytesCode : Code UInt8 Bytes := .block

def oidCode : Code UInt8 Oid := .list .nat

def boolCode : Code UInt8 Bool :=
  Code.count.via (fun b => if b then 1 else 0) (fun n => some (n = 1)) (by decide)

def timeCode : Code UInt8 Time :=
  Code.nat.via Time.seconds (fun n => if h : n ≤ 253402300799 then some ⟨n, h⟩ else none) fun t =>
    dif_pos t.inRange

def nameCode : Code UInt8 Name := bytesCode.via Name.der (fun b => some ⟨b⟩) fun _ => rfl

def algorithmCode : Code UInt8 AlgorithmIdentifier :=
  (oidCode.pair bytesCode.option).via (fun a => (a.oid, a.parameters)) (fun p => some ⟨p.1, p.2⟩)
    fun _ => rfl

end Primitives

section Certificates

def spkiCode : Code UInt8 SubjectPublicKeyInfo :=
  (algorithmCode.pair bytesCode).via (fun k => (k.algorithm, k.subjectPublicKey))
    (fun p => some ⟨p.1, p.2⟩) fun _ => rfl

def extensionCode : Code UInt8 Extension :=
  (oidCode.pair (boolCode.pair bytesCode)).via (fun e => (e.extnId, e.critical, e.extnValue))
    (fun p => some ⟨p.1, p.2.1, p.2.2⟩) fun _ => rfl

def certificateCode : Code UInt8 Certificate :=
  (bytesCode.pair (nameCode.pair (timeCode.pair (timeCode.pair (nameCode.pair (spkiCode.pair
    ((Code.list extensionCode).option.pair (algorithmCode.pair bytesCode)))))))).via
    (fun c => (c.serialNumber, c.issuer, c.notBefore, c.notAfter, c.subject,
      c.subjectPublicKeyInfo, c.extensions, c.signatureAlgorithm, c.signature))
    (fun p => some ⟨p.1, p.2.1, p.2.2.1, p.2.2.2.1, p.2.2.2.2.1, p.2.2.2.2.2.1, p.2.2.2.2.2.2.1,
      p.2.2.2.2.2.2.2.1, p.2.2.2.2.2.2.2.2⟩)
    fun _ => rfl

def revokedCode : Code UInt8 RevokedCert :=
  (bytesCode.pair timeCode).via (fun r => (r.serialNumber, r.revocationDate))
    (fun p => some ⟨p.1, p.2⟩) fun _ => rfl

def certificateListCode : Code UInt8 CertificateList :=
  (nameCode.pair (timeCode.pair ((Code.list revokedCode).option.pair
    (algorithmCode.pair bytesCode)))).via
    (fun l => (l.issuer, l.thisUpdate, l.revokedCertificates, l.signatureAlgorithm, l.signature))
    (fun p => some ⟨p.1, p.2.1, p.2.2.1, p.2.2.2.1, p.2.2.2.2⟩)
    fun _ => rfl

def certificateChoiceCode : Code UInt8 CertificateChoice :=
  (certificateCode.option.pair bytesCode).via
    (fun
      | .certificate c => (some c, [])
      | .other der => (none, der))
    (fun
      | (some c, _) => some (.certificate c)
      | (none, der) => some (.other der))
    (by rintro (c | der) <;> rfl)

def revocationInfoChoiceCode : Code UInt8 RevocationInfoChoice :=
  (certificateListCode.option.pair bytesCode).via
    (fun
      | .crl list => (some list, [])
      | .other der => (none, der))
    (fun
      | (some list, _) => some (.crl list)
      | (none, der) => some (.other der))
    (by rintro (list | der) <;> rfl)

end Certificates

section Messages

def attributeCode : Code UInt8 Attribute :=
  (oidCode.pair (.list bytesCode)).via (fun a => (a.oid, a.values)) (fun p => some ⟨p.1, p.2⟩)
    fun _ => rfl

/-- Behind the tag of a `SET OF`. -/
def attributesCode : Code UInt8 (List Attribute) := .tagged 0x31 (.list attributeCode)

def sidCode : Code UInt8 SignerIdentifier :=
  (nameCode.option.pair bytesCode).via
    (fun
      | .issuerAndSerialNumber issuer serialNumber => (some issuer, serialNumber)
      | .subjectKeyIdentifier ski => (none, ski))
    (fun
      | (some issuer, serialNumber) => some (.issuerAndSerialNumber issuer serialNumber)
      | (none, ski) => some (.subjectKeyIdentifier ski))
    (by rintro (_ | _) <;> rfl)

def signerInfoCode : Code UInt8 SignerInfo :=
  (Code.nat.pair (sidCode.pair (algorithmCode.pair (attributesCode.option.pair
    (algorithmCode.pair (bytesCode.pair attributesCode.option)))))).via
    (fun s => (s.version, s.sid, s.digestAlg, s.signedAttrs, s.signatureAlgorithm, s.signature,
      s.unsignedAttrs))
    (fun p => some ⟨p.1, p.2.1, p.2.2.1, p.2.2.2.1, p.2.2.2.2.1, p.2.2.2.2.2.1, p.2.2.2.2.2.2⟩)
    fun _ => rfl

def signedDataCode : Code UInt8 SignedData :=
  (oidCode.pair (bytesCode.option.pair ((Code.list certificateChoiceCode).option.pair
    ((Code.list revocationInfoChoiceCode).option.pair (.list signerInfoCode))))).via
    (fun d => (d.econtentType, d.econtent, d.certificates, d.crls, d.signerInfos))
    (fun p => some ⟨p.1, p.2.1, p.2.2.1, p.2.2.2.1, p.2.2.2.2⟩)
    fun _ => rfl

end Messages

end CmsEncodings
