import PowerGrant.Identity.PrivateKey
import PowerGrant.Text.PemLines

/-!
# Identities

Who shows an identity shows certificates and has the private key for them.

* `Identity.isUsable`: whether a text holds an identity that can be shown. The certificates are for others
  to judge, so all that counts about them is that there are some.
-/

namespace PowerGrant.Identity

/-- The label of certificates. -/
def certificateLabel : List Char := "CERTIFICATE".toList

/-- The labels of private keys, the one that counts most first. -/
def keyLabels : List (List Char) :=
  ["PRIVATE KEY", "RSA PRIVATE KEY", "EC PRIVATE KEY"].map String.toList

/-- The label of lists of withdrawn certificates, which are no part of an identity. -/
def withdrawnLabel : List Char := "X509 CRL".toList

/-- The sections of a text that count. -/
def sections? (cs : List Char) : Option (List Text.PemSection) :=
  Text.pemLines? (certificateLabel :: withdrawnLabel :: keyLabels) cs

/-- The sections with a label. -/
def labelled (label : List Char) (sections : List Text.PemSection) : List Text.PemSection :=
  sections.filter (·.label = label)

/-- The private key among sections: the last one with the label that counts most. -/
def key? (sections : List Text.PemSection) : Option Text.PemSection :=
  keyLabels.findSome? fun label => (labelled label sections).getLast?

/-- Whether a text holds an identity that can be shown. -/
def isUsable (cs : List Char) : Bool :=
  (sections? cs).any fun sections =>
    (key? sections).any (PrivateKey.isUsable ·.bytes) &&
      !(labelled certificateLabel sections).isEmpty && (labelled withdrawnLabel sections).isEmpty

end PowerGrant.Identity
