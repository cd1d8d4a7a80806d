import CpuIdentity.Text.Basic

/-!
# The catalogued models

The catalogue is a closed list of family-6 models. Each has a symbolic name, a one-byte model number
as the processor shows it (extended model folded in) and a lineage, the line of micro-architectures that
it descends from; no two share a number or a name. No look-up depends on the lineage.
-/

namespace CpuIdentity

/-- A line of family-6 micro-architectures. -/
inductive Lineage where
  | core
  | hybrid
  | atom
  | xeonPhi
  deriving DecidableEq, Repr

namespace Lineage

def name : Lineage → Text
  | .core => "core"
  | .hybrid => "hybrid"
  | .atom => "atom"
  | .xeonPhi => "xeon-phi"

def description : Lineage → Text
  | .core => "Big Core"
  | .hybrid => "Hybrid P/E-Core"
  | .atom => "Small Core / Atom"
  | .xeonPhi => "Xeon Phi"

def all : List Lineage := [.core, .hybrid, .atom, .xeonPhi]

theorem mem_all (l : Lineage) : l ∈ all := by
  cases l <;> decide

theorem name_injective {l l' : Lineage} (h : l.name = l'.name) : l = l' := by
  revert h
  cases l <;> cases l' <;> decide

end Lineage

/-- A catalogued family-6 micro-architecture, in the order of the catalogue. -/
inductive Model where
  | coreYonah
  | core2Merom
  | core2MeromL
  | core2Penryn
  | core2Dunnington
  | nehalem
  /-- Auburndale / Havendale. -/
  | nehalemG
  | nehalemEp
  | nehalemEx
  | westmere
  | westmereEp
  | westmereEx
  | sandybridge
  | sandybridgeX
  | ivybridge
  | ivybridgeX
  | haswell
  | haswellX
  | haswellL
  | haswellG
  | broadwell
  | broadwellG
  | broadwellX
  | broadwellD
  | skylakeL
  | skylake
  /-- Cascade Lake-X and Cooper Lake-X too, told apart by stepping. -/
  | skylakeX
  /-- Amber Lake-L, Coffee Lake-L and Whiskey Lake-L too, told apart by stepping. -/
  | kabylakeL
  /-- Coffee Lake too, told apart by stepping. -/
  | kabylake
  | cometlake
  | cometlakeL
  /-- Palm Cove. -/
  | cannonlakeL
  | icelakeX
  | icelakeD
  | icelake
  | icelakeL
  | icelakeNnpi
  /-- Cypress Cove. -/
  | rocketlake
  | tigerlakeL
  | tigerlake
  /-- Golden Cove. -/
  | sapphirerapidsX
  /-- Raptor Cove. -/
  | emeraldrapidsX
  | graniterapidsX
  | graniterapidsD
  /-- Sunny Cove / Tremont. -/
  | lakefield
  | alderlake
  | alderlakeL
  | raptorlake
  | raptorlakeP
  | raptorlakeS
  | meteorlake
  | meteorlakeL
  | arrowlakeH
  | arrowlake
  | lunarlakeM
  /-- Diamondville, Pineview. -/
  | atomBonnell
  /-- Silverthorne, Lincroft. -/
  | atomBonnellMid
  /-- Cedarview. -/
  | atomSaltwell
  /-- Penwell. -/
  | atomSaltwellMid
  /-- Cloverview. -/
  | atomSaltwellTablet
  /-- Bay Trail, Valleyview. -/
  | atomSilvermont
  /-- Avaton, Rangely. -/
  | atomSilvermontD
  /-- Merriefield. -/
  | atomSilvermontMid
  /-- Moorefield. -/
  | atomSilvermontSmartphone
  /-- Cherry Trail, Braswell. -/
  | atomAirmont
  /-- Lightning Mountain. -/
  | atomAirmontNp
  /-- Apollo Lake. -/
  | atomGoldmont
  /-- Denverton. -/
  | atomGoldmontD
  /-- Gemini Lake. -/
  | atomGoldmontPlus
  /-- Jacobsville. -/
  | atomTremontD
  /-- Elkhart Lake. -/
  | atomTremont
  /-- Jasper Lake. -/
  | atomTremontL
  /-- Alderlake-N. -/
  | atomGracemont
  /-- Sierra Forest. -/
  | atomCrestmontX
  /-- Grand Ridge. -/
  | atomCrestmont
  /-- Knights Landing. -/
  | xeonPhiKnl
  /-- Knights Mill. -/
  | xeonPhiKnm
  deriving DecidableEq, Repr

namespace Model

/-- What the catalogue says of a model. -/
structure Entry where
  /-- The symbolic name without the text that all names start with. -/
  symbol : Text
  /-- The model number, extended model folded in. -/
  number : UInt8
  lineage : Lineage
  deriving DecidableEq, Repr

/-- The catalogue's entry for each model. -/
def entry : Model → Entry
  | .coreYonah => ⟨"CORE_YONAH", 0x0E, .core⟩
  | .core2Merom => ⟨"CORE2_MEROM", 0x0F, .core⟩
  | .core2MeromL => ⟨"CORE2_MEROM_L", 0x16, .core⟩
  | .core2Penryn => ⟨"CORE2_PENRYN", 0x17, .core⟩
  | .core2Dunnington => ⟨"CORE2_DUNNINGTON", 0x1D, .core⟩
  | .nehalem => ⟨"NEHALEM", 0x1E, .core⟩
  | .nehalemG => ⟨"NEHALEM_G", 0x1F, .core⟩
  | .nehalemEp => ⟨"NEHALEM_EP", 0x1A, .core⟩
  | .nehalemEx => ⟨"NEHALEM_EX", 0x2E, .core⟩
  | .westmere => ⟨"WESTMERE", 0x25, .core⟩
  | .westmereEp => ⟨"WESTMERE_EP", 0x2C, .core⟩
  | .westmereEx => ⟨"WESTMERE_EX", 0x2F, .core⟩
  | .sandybridge => ⟨"SANDYBRIDGE", 0x2A, .core⟩
  | .sandybridgeX => ⟨"SANDYBRIDGE_X", 0x2D, .core⟩
  | .ivybridge => ⟨"IVYBRIDGE", 0x3A, .core⟩
  | .ivybridgeX => ⟨"IVYBRIDGE_X", 0x3E, .core⟩
  | .haswell => ⟨"HASWELL", 0x3C, .core⟩
  | .haswellX => ⟨"HASWELL_X", 0x3F, .core⟩
  | .haswellL => ⟨"HASWELL_L", 0x45, .core⟩
  | .haswellG => ⟨"HASWELL_G", 0x46, .core⟩
  | .broadwell => ⟨"BROADWELL", 0x3D, .core⟩
  | .broadwellG => ⟨"BROADWELL_G", 0x47, .core⟩
  | .broadwellX => ⟨"BROADWELL_X", 0x4F, .core⟩
  | .broadwellD => ⟨"BROADWELL_D", 0x56, .core⟩
  | .skylakeL => ⟨"SKYLAKE_L", 0x4E, .core⟩
  | .skylake => ⟨"SKYLAKE", 0x5E, .core⟩
  | .skylakeX => ⟨"SKYLAKE_X", 0x55, .core⟩
  | .kabylakeL => ⟨"KABYLAKE_L", 0x8E, .core⟩
  | .kabylake => ⟨"KABYLAKE", 0x9E, .core⟩
  | .cometlake => ⟨"COMETLAKE", 0xA5, .core⟩
  | .cometlakeL => ⟨"COMETLAKE_L", 0xA6, .core⟩
  | .cannonlakeL => ⟨"CANNONLAKE_L", 0x66, .core⟩
  | .icelakeX => ⟨"ICELAKE_X", 0x6A, .core⟩
  | .icelakeD => ⟨"ICELAKE_D", 0x6C, .core⟩
  | .icelake => ⟨"ICELAKE", 0x7D, .core⟩
  | .icelakeL => ⟨"ICELAKE_L", 0x7E, .core⟩
  | .icelakeNnpi => ⟨"ICELAKE_NNPI", 0x9D, .core⟩
  | .rocketlake => ⟨"ROCKETLAKE", 0xA7, .core⟩
  | .tigerlakeL => ⟨"TIGERLAKE_L", 0x8C, .core⟩
  | .tigerlake => ⟨"TIGERLAKE", 0x8D, .core⟩
  | .sapphirerapidsX => ⟨"SAPPHIRERAPIDS_X", 0x8F, .core⟩
  | .emeraldrapidsX => ⟨"EMERALDRAPIDS_X", 0xCF, .core⟩
  | .graniterapidsX => ⟨"GRANITERAPIDS_X", 0xAD, .core⟩
  | .graniterapidsD => ⟨"GRANITERAPIDS_D", 0xAE, .core⟩
  | .lakefield => ⟨"LAKEFIELD", 0x8A, .hybrid⟩
  | .alderlake => ⟨"ALDERLAKE", 0x97, .hybrid⟩
  | .alderlakeL => ⟨"ALDERLAKE_L", 0x9A, .hybrid⟩
  | .raptorlake => ⟨"RAPTORLAKE", 0xB7, .hybrid⟩
  | .raptorlakeP => ⟨"RAPTORLAKE_P", 0xBA, .hybrid⟩
  | .raptorlakeS => ⟨"RAPTORLAKE_S", 0xBF, .hybrid⟩
  | .meteorlake => ⟨"METEORLAKE", 0xAC, .hybrid⟩
  | .meteorlakeL => ⟨"METEORLAKE_L", 0xAA, .hybrid⟩
  | .arrowlakeH => ⟨"ARROWLAKE_H", 0xC5, .hybrid⟩
  | .arrowlake => ⟨"ARROWLAKE", 0xC6, .hybrid⟩
  | .lunarlakeM => ⟨"LUNARLAKE_M", 0xBD, .hybrid⟩
  | .atomBonnell => ⟨"ATOM_BONNELL", 0x1C, .atom⟩
  | .atomBonnellMid => ⟨"ATOM_BONNELL_MID", 0x26, .atom⟩
  | .atomSaltwell => ⟨"ATOM_SALTWELL", 0x36, .atom⟩
  | .atomSaltwellMid => ⟨"ATOM_SALTWELL_MID", 0x27, .atom⟩
  | .atomSaltwellTablet => ⟨"ATOM_SALTWELL_TABLET", 0x35, .atom⟩
  | .atomSilvermont => ⟨"ATOM_SILVERMONT", 0x37, .atom⟩
  | .atomSilvermontD => ⟨"ATOM_SILVERMONT_D", 0x4D, .atom⟩
  | .atomSilvermontMid => ⟨"ATOM_SILVERMONT_MID", 0x4A, .atom⟩
  | .atomSilvermontSmartphone => ⟨"ATOM_SILVERMONT_SMARTPHONE", 0x5A, .atom⟩
  | .atomAirmont => ⟨"ATOM_AIRMONT", 0x4C, .atom⟩
  | .atomAirmontNp => ⟨"ATOM_AIRMONT_NP", 0x75, .atom⟩
  | .atomGoldmont => ⟨"ATOM_GOLDMONT", 0x5C, .atom⟩
  | .atomGoldmontD => ⟨"ATOM_GOLDMONT_D", 0x5F, .atom⟩
  | .atomGoldmontPlus => ⟨"ATOM_GOLDMONT_PLUS", 0x7A, .atom⟩
  | .atomTremontD => ⟨"ATOM_TREMONT_D", 0x86, .atom⟩
  | .atomTremont => ⟨"ATOM_TREMONT", 0x96, .atom⟩
  | .atomTremontL => ⟨"ATOM_TREMONT_L", 0x9C, .atom⟩
  | .atomGracemont => ⟨"ATOM_GRACEMONT", 0xBE, .atom⟩
  | .atomCrestmontX => ⟨"ATOM_CRESTMONT_X", 0xAF, .atom⟩
  | .atomCrestmont => ⟨"ATOM_CRESTMONT", 0xB6, .atom⟩
  | .xeonPhiKnl => ⟨"XEON_PHI_KNL", 0x57, .xeonPhi⟩
  | .xeonPhiKnm => ⟨"XEON_PHI_KNM", 0x85, .xeonPhi⟩

/-- What every symbolic name starts with. -/
def nameLead : Text := "INTEL_FAM6_"

def symbol (m : Model) : Text := m.entry.symbol

/-- The symbolic name, as in `INTEL_FAM6_SKYLAKE_X`. -/
def name (m : Model) : Text := nameLead ++ m.symbol

def number (m : Model) : UInt8 := m.entry.number

def lineage (m : Model) : Lineage := m.entry.lineage

/-- Every model, in the order of the catalogue. -/
def all : List Model :=
  [.coreYonah, .core2Merom, .core2MeromL, .core2Penryn, .core2Dunnington, .nehalem, .nehalemG,
   .nehalemEp, .nehalemEx, .westmere, .westmereEp, .westmereEx, .sandybridge, .sandybridgeX,
   .ivybridge, .ivybridgeX, .haswell, .haswellX, .haswellL, .haswellG, .broadwell, .broadwellG,
   .broadwellX, .broadwellD, .skylakeL, .skylake, .skylakeX, .kabylakeL, .kabylake, .cometlake,
   .cometlakeL, .cannonlakeL, .icelakeX, .icelakeD, .icelake, .icelakeL, .icelakeNnpi,
   .rocketlake, .tigerlakeL, .tigerlake, .sapphirerapidsX, .emeraldrapidsX, .graniterapidsX,
   .graniterapidsD, .lakefield, .alderlake, .alderlakeL, .raptorlake, .raptorlakeP, .raptorlakeS,
   .meteorlake, .meteorlakeL, .arrowlakeH, .arrowlake, .lunarlakeM, .atomBonnell,
   .atomBonnellMid, .atomSaltwell, .atomSaltwellMid, .atomSaltwellTablet, .atomSilvermont,
   .atomSilvermontD, .atomSilvermontMid, .atomSilvermontSmartphone, .atomAirmont, .atomAirmontNp,
   .atomGoldmont, .atomGoldmontD, .atomGoldmontPlus, .atomTremontD, .atomTremont, .atomTremontL,
   .atomGracemont, .atomCrestmontX, .atomCrestmont, .xeonPhiKnl, .xeonPhiKnm]

theorem mem_all (m : Model) : m ∈ all := by
  cases m <;> decide

theorem symbol_injective {m m' : Model} (h : m.symbol = m'.symbol) : m = m' := by
  have key : ∀ a ∈ all, ∀ b ∈ all, a.symbol = b.symbol → a = b := by decide +kernel
  exact key m (mem_all m) m' (mem_all m') h

end Model

/-- The models of a lineage, in the order of the catalogue. -/
def Lineage.models (l : Lineage) : List Model := Model.all.filter fun m => m.lineage = l

end CpuIdentity
