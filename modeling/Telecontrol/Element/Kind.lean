/-!
# Kinds of information elements

An information element is a field of fixed width. Its kind tells how the octets are read; the rows
of an information object are lists of elements whose kinds the type identification prescribes.
-/

namespace Telecontrol

/-- The kinds of information elements, named by their standard abbreviations. -/
inductive ElementKind
  | siq | diq | qds | qdp | vti | nva | sva | r32 | bsi | scd | bcr | sep | spe | oci
  | sco | dco | rco | qos | qoi | qcc | qpm | qpa | qrp | coi | fbp | tsc
  | cp56 | cp24 | cp16
deriving DecidableEq, Repr

namespace ElementKind

def all : List ElementKind :=
  [siq, diq, qds, qdp, vti, nva, sva, r32, bsi, scd, bcr, sep, spe, oci, sco, dco, rco, qos, qoi,
    qcc, qpm, qpa, qrp, coi, fbp, tsc, cp56, cp24, cp16]

theorem mem_all (k : ElementKind) : k ∈ all := by cases k <;> decide

def name : ElementKind → String
  | siq => "Siq" | diq => "Diq" | qds => "Qds" | qdp => "Qdp" | vti => "Vti" | nva => "Nva"
  | sva => "Sva" | r32 => "R32" | bsi => "Bsi" | scd => "Scd" | bcr => "Bcr" | sep => "Sep"
  | spe => "Spe" | oci => "Oci" | sco => "Sco" | dco => "Dco" | rco => "Rco" | qos => "Qos"
  | qoi => "Qoi" | qcc => "Qcc" | qpm => "Qpm" | qpa => "Qpa" | qrp => "Qrp" | coi => "Coi"
  | fbp => "Fbp" | tsc => "Tsc" | cp56 => "Cp56" | cp24 => "Cp24" | cp16 => "Cp16"

/-- Encoded width in octets. -/
def width : ElementKind → Nat
  | siq | diq | qds | qdp | vti | sep | spe | oci | sco | dco | rco | qos | qoi | qcc | qpm | qpa
  | qrp | coi => 1
  | nva | sva | fbp | tsc | cp16 => 2
  | cp24 => 3
  | r32 | bsi | scd => 4
  | bcr => 5
  | cp56 => 7

/-- Encoded width of a row of elements. -/
def rowWidth (layout : List ElementKind) : Nat :=
  layout.foldr (fun kind total => kind.width + total) 0

/-- A layout as it is shown in messages. -/
def layoutText (layout : List ElementKind) : String :=
  "[" ++ ", ".intercalate (layout.map name) ++ "]"

end ElementKind

end Telecontrol
