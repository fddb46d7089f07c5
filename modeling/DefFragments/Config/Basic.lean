import DefFragments.Announcement
import DefFragments.Fragment.Entry
import DefFragments.Path

/-!
# Configuration

Which directory is scanned and for what, where the fragments go, and how markers are spelled. Every
path of a configuration is seen from a base directory, as a rule the one that holds the
configuration file.
-/

namespace DefFragments

structure SourceConfig where
  dir : Path
  scan : List String := ["c"]
  /-- Extensions of the files whose age counts. -/
  depends : List String := ["c", "h"]
  exclude : List String := ["freebsdmodule.c"]
  deriving DecidableEq, Inhabited

structure OutputConfig where
  /-- The output directory, if it is not the source directory. -/
  dir? : Option Path := none
  sources : Path := ⟨".sources.def"⟩
  constants : Path := ⟨".const.def"⟩
  methods : Path := ⟨".methods.def"⟩
  types : Path := ⟨".types.def"⟩
  libraries : Path := ⟨".libraries.def"⟩
  deriving DecidableEq, Inhabited

def OutputConfig.file (c : OutputConfig) : FragmentKind → Path
  | .sources => c.sources
  | .constants => c.constants
  | .methods => c.methods
  | .types => c.types
  | .libraries => c.libraries

structure Config where
  source : SourceConfig
  output : OutputConfig := {}
  markers : Markers := {}
  deriving DecidableEq, Inhabited

namespace Config

def sourceDir (c : Config) (base : Path) : Path :=
  base.join c.source.dir

def outputDir (c : Config) (base : Path) : Path :=
  match c.output.dir? with
  | some dir => base.join dir
  | none => c.sourceDir base

def outputPathsIn (c : Config) (dir : Path) : List Path :=
  FragmentKind.all.map fun kind => dir.join (c.output.file kind)

/-- The paths of the fragments, in the order of publication; another directory may take the place of
the configured one. -/
def outputPaths (c : Config) (base : Path) (dir? : Option Path) : List Path :=
  c.outputPathsIn (dir?.getD (c.outputDir base))

def outputPath (c : Config) (base : Path) (dir? : Option Path) (kind : FragmentKind) : Path :=
  (dir?.getD (c.outputDir base)).join (c.output.file kind)

end Config

end DefFragments
