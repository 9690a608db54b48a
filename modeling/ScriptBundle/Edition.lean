/-! Editions of the script language that a bundle can be printed for, oldest first. -/
namespace ScriptBundle

inductive Edition where
  | es3
  | es5
  | es2015
  | es2016
  | es2017
  | es2018
  | es2019
  | es2020
  | es2021
  | es2022
  | esNext
  deriving DecidableEq, Inhabited, Repr

namespace Edition

def rank : Edition → Nat
  | .es3 => 0
  | .es5 => 1
  | .es2015 => 2
  | .es2016 => 3
  | .es2017 => 4
  | .es2018 => 5
  | .es2019 => 6
  | .es2020 => 7
  | .es2021 => 8
  | .es2022 => 9
  | .esNext => 10

instance : LE Edition := ⟨fun a b => a.rank ≤ b.rank⟩

instance (a b : Edition) : Decidable (a ≤ b) := inferInstanceAs (Decidable (a.rank ≤ b.rank))

instance : LT Edition := ⟨fun a b => a.rank < b.rank⟩

instance (a b : Edition) : Decidable (a < b) := inferInstanceAs (Decidable (a.rank < b.rank))

/-- The name that reports show. -/
def label : Edition → String
  | .es3 => "Es3"
  | .es5 => "Es5"
  | .es2015 => "Es2015"
  | .es2016 => "Es2016"
  | .es2017 => "Es2017"
  | .es2018 => "Es2018"
  | .es2019 => "Es2019"
  | .es2020 => "Es2020"
  | .es2021 => "Es2021"
  | .es2022 => "Es2022"
  | .esNext => "EsNext"

/-- The edition that a setting names. Letters may be of either case; no character beyond the first
128 has a lower case that occurs in a name. -/
def ofName? (name : String) : Option Edition :=
  match name.map Char.toLower with
  | "es3" => some .es3
  | "es5" => some .es5
  | "es6" => some .es2015
  | "es2015" => some .es2015
  | "es2016" => some .es2016
  | "es2017" => some .es2017
  | "es2018" => some .es2018
  | "es2019" => some .es2019
  | "es2020" => some .es2020
  | "es2021" => some .es2021
  | "es2022" => some .es2022
  | "esnext" => some .esNext
  | _ => none

end Edition

end ScriptBundle
