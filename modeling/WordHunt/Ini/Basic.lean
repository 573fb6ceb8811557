/-!
The items of an INI document: headers of sections, and entries that belong to the section whose
header came last.
-/

namespace WordHunt

inductive Ini.Item where
  | section (name : String)
  | entry (name value : String)
  deriving DecidableEq, Repr

abbrev Ini := List Ini.Item

end WordHunt
