import Conduit.Http.Domain.Direction
import Conduit.Http.Domain.Insertion
import Conduit.Http.Domain.Joining
import Conduit.Http.Domain.Refused
import Conduit.Http.Domain.Substitution
import Conduit.Text.Composed

/-!
# Domain names

A domain name is a row of labels with points between them. Its normal form has each character that
stands for another replaced, is composed, and has every label that was given in ASCII letters in its
own characters. Names are compared and looked up with all labels in ASCII letters again.
-/

namespace Conduit.Http.Domain

open Text

/-- What stands before a label that is written in ASCII letters. -/
def asciiMark : List Char := "xn--".toList

/-- The longest row of letters and figures that is read as a label. -/
def longestWritten : Nat := 2000

/-- The most characters of a label beyond ASCII. -/
def longestLabel : Nat := 1000

def isAscii (text : List Char) : Bool := text.all fun c => decide (c.toNat < 128)

/-- The name with every character replaced by what it stands for, if it holds none that no name
holds. -/
def replaced? (name : List Char) : Option (List Char) :=
  if name.any isRefused then none
  else
    let name := composed (name.flatMap substitute)
    if name.any isParting then none else some name

def isNormal (label : List Char) : Bool := replaced? label == some label && !label.contains '.'

def readLabel? (label : List Char) : Option (List Char) :=
  if !asciiMark.isPrefixOf label then some label
  else
    let written := label.drop asciiMark.length
    if written.isEmpty ∨ written.getLast? = some '-' ∨ longestWritten < written.length then none
    else (Insertion.decode? written).filter isNormal

/-- A label may stand in a name: one beyond ASCII starts with no mark, has joiners only where they
may stand, and is not too long. -/
def isFit (label : List Char) : Bool :=
  isAscii label ||
    (!(label.head?.map isMark).getD false && areJoinersFit [] label &&
      decide (label.length ≤ longestLabel))

def writeLabel (label : List Char) : List Char :=
  if isAscii label then label else asciiMark ++ Insertion.encode label

def asciiName? (name : List Char) : Option (List Char) := do
  let name ← replaced? name
  let labels ← (segmentsOf '.' name).mapM readLabel?
  if labels.all isFit && isDirected labels then some (['.'].intercalate (labels.map writeLabel))
  else none

example : asciiName? "MÜNCHEN.de".toList = some "xn--mnchen-3ya.de".toList := by decide +kernel

example : asciiName? "xn--a".toList = none ∧ asciiName? "a b".toList = none := by decide +kernel

end Conduit.Http.Domain
