import LedgerTags.FileSystem.Tree

/-!
# The shipped taxonomy

The configuration and the taxonomy that are used when no other ones are given.
-/

namespace LedgerTags.Shipped

/-- The lines of the configuration. -/
def config : List String := [
  "[taxonomy]",
  "# Folder of *.yaml taxonomy files, relative to this file",
  "dir = \"config/taxonomy\"",
  "",
  "[thresholds]",
  "# abs(amount) <= micro -> \"micro\" tag, abs(amount) >= macro -> \"macro\" tag",
  "micro = \"1.00\"",
  "macro = \"1000.00\"",
  "",
  "[logging]",
  "level = \"INFO\""]

/-- Food and groceries. -/
def food : List String := [
  "tags: [food]",
  "data:",
  "  - name: \"Jet's Pizza\"",
  "    match: \"jet'?s pizza\"",
  "    tags: [delivery, fast-food]",
  "  - name: DoorDash",
  "    match: \"doordash\"",
  "    tags: [delivery]",
  "  - name: Starbucks",
  "    match: \"starbucks\"",
  "    tags: [coffee]",
  "  - name: Chipotle",
  "    match: \"chipotle\"",
  "    tags: [fast-food]",
  "  - name: Kroger",
  "    match: \"kroger\"",
  "    tags: [groceries]",
  "  - name: Whole Foods",
  "    match: \"whole ?foods|wfm\"",
  "    tags: [groceries]",
  "  # before travel.yaml's plain \"uber\" rule",
  "  - name: Uber Eats",
  "    match: \"uber ?eats\"",
  "    tags: [delivery]"]

/-- Shops. -/
def shopping : List String := [
  "tags: [shopping]",
  "data:",
  "  - name: Amazon",
  "    match: \"amazon|amzn mktp\"",
  "  - name: Target",
  "    match: \"target\\\\b\"",
  "  - name: Walmart",
  "    match: \"wal-?mart|wm supercenter\"",
  "    tags: [groceries]"]

/-- Transfers of money. -/
def transfers : List String := [
  "tags: [transfer]",
  "data:",
  "  - name: Payroll",
  "    match: \"payroll|direct dep\"",
  "    tags: [income]",
  "  - name: Venmo",
  "    match: \"venmo\"",
  "  - name: Zelle",
  "    match: \"zelle\"",
  "  - name: Credit Card Payment",
  "    match: \"payment thank you|autopay\"",
  "    tags: [credit-card]"]

/-- Travel. -/
def travel : List String := [
  "tags: [travel]",
  "data:",
  "  - name: Uber",
  "    match: \"uber\"",
  "    tags: [rideshare]",
  "  - name: Lyft",
  "    match: \"lyft\"",
  "    tags: [rideshare]",
  "  - name: Shell",
  "    match: \"shell oil|shell service\"",
  "    tags: [gas]"]

/-- The files by their places below the directory that they are shipped in. -/
def files : List (Location × List String) := [
  (["config.toml"], config),
  (["config", "taxonomy", "food.yaml"], food),
  (["config", "taxonomy", "shopping.yaml"], shopping),
  (["config", "taxonomy", "transfers.yaml"], transfers),
  (["config", "taxonomy", "travel.yaml"], travel)]

/-- The octets of a file of some lines. -/
def octets (lines : List String) : List UInt8 :=
  Text.Utf8.encode (lines.flatMap fun l => Text.ofString l ++ [CodePoint.ofNat 10])

/-- The tree with the shipped files below a directory. -/
def install (home : Location) (fs : FileSystem) : FileSystem :=
  files.foldl (fun fs f => fs.add (home ++ f.1) (.file (octets f.2))) fs

/-- The path of the configuration below a directory. -/
def configPath (home : Location) : Text :=
  FileSystem.absolute (home ++ (["config.toml"] : Location))

/-- The path of the taxonomy below a directory. -/
def taxonomyPath (home : Location) : Text :=
  FileSystem.absolute (home ++ (["config", "taxonomy"] : Location))

end LedgerTags.Shipped
