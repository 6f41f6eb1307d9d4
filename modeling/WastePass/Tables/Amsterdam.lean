import WastePass.Tables.Draft

/-!
# Amsterdam — the configuration of the municipality

    The ranges of the districts do not overlap and every district has a pass number,
    so the order in which either table lists them never decides an answer.
-/

namespace WastePass.Amsterdam

/-- The postal numbers of each district. -/
def ranges : List (District × List (String × String)) :=
  [(.centrum,   [("1011", "1018")]),
   (.noord,     [("1020", "1039")]),
   (.oost,      [("1019", "1019"), ("1086", "1099")]),
   (.westpoort, [("1040", "1049")]),
   (.west,      [("1050", "1059")]),
   (.nieuwWest, [("1060", "1069")]),
   (.zuid,      [("1070", "1083")]),
   (.zuidoost,  [("1100", "1108")]),
   (.weesp,     [("1380", "1384")])]

/-- The pass number of each district. -/
def passNumbers : List (District × String) :=
  [(.centrum,   "80706D8A189404"),
   (.nieuwWest, "80706D8A2E9504"),
   (.noord,     "80706D8A3F8604"),
   (.oost,      "80706D8A4B9304"),
   (.west,      "80706D8A72BD04"),
   (.zuid,      "80706DAA58604"),
   (.zuidoost,  "80706D8AAD9604"),
   (.weesp,     "80706D8AD88404"),
   (.westpoort, "80706D8A897004")]

/-- Where containers are missing: for the listed letters, or for the whole range. -/
def withoutContainers : List ((String × String) × List String) :=
  [(("1011", "1011"), ["AB"]),
   (("1020", "1020"), ["AB"]),
   (("1019", "1100"), [])]

/-- The configuration, entry by entry. -/
def draft : Draft where
  districts := ranges
  passNumbers := passNumbers
  exceptions := withoutContainers

/-- The tables of the municipality. -/
def tables : Except TableFault Tables :=
  draft.build

end WastePass.Amsterdam
