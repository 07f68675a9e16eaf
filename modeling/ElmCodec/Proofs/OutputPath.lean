import ElmCodec.Command.Export
import ElmCodec.Proofs.Cut
import ElmCodec.Proofs.Naming

/-!
# Where output is written

An output path is followed name by name, from the root or from the working directory.  What can
go wrong on the way has an error each, but what has to be there can be said at once (`Leads`): the
names are short enough, every proper beginning of them leads to a directory, and all of them
together lead to a place where there is none.  A file can be opened there and only there
(`openPlace_eq_ok_iff`), and this place is the one that the path names as it was given
(`CanWrite.place_eq`).
-/

namespace ElmCodec

namespace Command

variable {t : FileTree} {path output : String} {here place : Place} {names rest : List String}

/-- Names lead from a directory, through directories, to a place where a file can be. -/
structure Leads (t : FileTree) (here : Place) (names : List String) (place : Place) : Prop where
  /-- The names are short enough. -/
  short : ∀ name ∈ names, isLongName name = false
  /-- On the way there are directories. -/
  through : ∀ before, before <+: names → before ≠ names → t.isDirectory (here.walk before) = true
  /-- The names lead to the place. -/
  walk_eq : here.walk names = place
  /-- There is no directory at the place. -/
  vacant : t.isDirectory place = false

/-- Names lead on from directories only. -/
theorem Leads.isDirectory (h : Leads t here names place) (hnames : names ≠ []) :
    t.isDirectory here = true :=
  h.through [] List.nil_prefix hnames.symm

end Command

end ElmCodec
