import DocSchema.Unicode.Range

/-!
# Grapheme cluster breaks

How characters join with their neighbours in what a reader takes for one character. Values that no
character has are not listed, nor is the value of all other characters.
-/
namespace DocSchema.Unicode

def graphemeBreaks : List (List String × List String) := [
  (["cr"],
    ["D"]),
  (["cn", "control"],
    ["0-9 1-1 1-11 5F-20 D 56E 11F1 7FC 2-1 18-6 31-F DE8F F0-B 3434-F 8860-3 14CF-7 C2E85-1F",
    "60-7F F0-E0F"]),
  (["ex", "extend"],
    ["300-6F 113-6 107-2C 1 1-1 1-1 1 48-A 30-14 10 65-6 2-5 2-1 1-3 23 1E-1A 5B-A 3A-8 9 18-3",
    "1-8 1-2 1-4 2B-2 3B-8 2A-17 1-1F 37 1 4-7 4 3-6 A-1 1D 3A 1 2-3 8 9 A-1 1A 2-1 39 4-1 4-1",
    "2-2 3 1E-1 3 B-1 39 4-4 1-1 4 14-1 16-5 1 3A 1-1 1-3 8 7-2 A-1 1E 3B 1 C 9 28 3 37 1-2 5-2",
    "1-3 7-1 B-1 1D 3A 2-1 1 3-2 1-3 7-1 B-1 1C-1 39-1 1 2-3 8 9 A-1 1D 48 4 2-2 1 8 51 2-6 C-7",
    "62 2-8 B-6 49-1 1B 1 1 37-D 1-4 1-1 5-A 1-23 9 66-3 1-5 1-1 2-1 19-1 4-2 10-3 D 2-1 6 F",
    "2BF-2 3B2-3 1C-2 1D-1 1E-1 40-1 1-6 8 2-A 9 2D-2 1 75-1 22 76-2 4-1 9 6-2 DB-1 2 3A 1-6 1",
    "1 2-7 6-9 2 30-1E 31-3 30-9 4-2 26-8 C-1 20-3 2-5 38 1-1 3 1-4 38-7 2-1 98-2 1-C 1-6 4 6",
    "3-1 C6-3F 20C C3-20 BFE-2 8D 60-1F 22A-5 69-1 75D4-3 1-9 20-1 50-1 110 3 4 19-1 5 97-1",
    "1A-11 D 26-7 19-A 1 2C-2 30 2-3 2-1 2 24 43-5 2-1 2-1 C 8 2F 33 1-2 2-1 5-1 1 2A-1 8 EE 2",
    "4 4F30 2E1-F 10-F 16E-1 25D E2 95-4 686-2 1-1 5-3 28-2 4 A5-1 23D-3 41-4 13D-1 4F-3 46-A",
    "31-3 7B 36-E 29 2-1 A-2 31-3 2-1 7 3D-2 24-4 1-7 3E C-1 34-8 1 8-3 2 5F-2 2-3 6 2 9D 3-7",
    "15-1 39-1 1 1 C 9 E-6 3-4 43 2-5 1 2 1-2 4-2 1 E-1 55-7 2-2 1 17 51 2-5 1 2 1-1 1-1 EB 2-3",
    "6-1 1-1 1B-1 55-7 2 1-1 6A 1 2-7 65 1 2-3 1-4 103-8 1-1 F5 A-3 4 90-3 2-1 4 20-9 28-5 2-3",
    "8 9-5 2-2 2E-C 1-1 196-6 1-5 1 52-15 2-6 1-1 1-1 7A-5 3 1-1 1-6 1 48-1 3 1 15B-1 B-1 34-4",
    "5-2 17 14E5 6-E 2CC8-B 3-2 9C0-4 3B-6 418 3F-3 51 B-1 4CAB-1 1261-2D 2-16 21E-4 3-5 8-7",
    "2-6 1E-3 94-2 7BB-36 4-31 8 E 16-4 1-E 550-6 1-10 2-6 1-1 1-4 64 A0-6 177 3D-3 1FC-3 FE-1",
    "2E0-6 6D-6 AB0-4 C0C20-5F 80-EF"]),
  (["l"],
    ["1100-5F 9800-1C"]),
  (["lf"],
    ["A"]),
  (["lv"],
    ["AC00 1B 1B 1B 1B 1B 1B 1B 1B 1B 1B 1B 1B 1B 1B 1B 1B 1B 1B 1B 1B 1B 1B 1B 1B 1B 1B 1B 1B",
    "1B 1B 1B 1B 1B 1B 1B 1B 1B 1B 1B 1B 1B 1B 1B 1B 1B 1B 1B 1B 1B 1B 1B 1B 1B 1B 1B 1B 1B 1B",
    "1B 1B 1B 1B 1B 1B 1B 1B 1B 1B 1B 1B 1B 1B 1B 1B 1B 1B 1B 1B 1B 1B 1B 1B 1B 1B 1B 1B 1B 1B",
    "1B 1B 1B 1B 1B 1B 1B 1B 1B 1B 1B 1B 1B 1B 1B 1B 1B 1B 1B 1B 1B 1B 1B 1B 1B 1B 1B 1B 1B 1B",
    "1B 1B 1B 1B 1B 1B 1B 1B 1B 1B 1B 1B 1B 1B 1B 1B 1B 1B 1B 1B 1B 1B 1B 1B 1B 1B 1B 1B 1B 1B",
    "1B 1B 1B 1B 1B 1B 1B 1B 1B 1B 1B 1B 1B 1B 1B 1B 1B 1B 1B 1B 1B 1B 1B 1B 1B 1B 1B 1B 1B 1B",
    "1B 1B 1B 1B 1B 1B 1B 1B 1B 1B 1B 1B 1B 1B 1B 1B 1B 1B 1B 1B 1B 1B 1B 1B 1B 1B 1B 1B 1B 1B",
    "1B 1B 1B 1B 1B 1B 1B 1B 1B 1B 1B 1B 1B 1B 1B 1B 1B 1B 1B 1B 1B 1B 1B 1B 1B 1B 1B 1B 1B 1B",
    "1B 1B 1B 1B 1B 1B 1B 1B 1B 1B 1B 1B 1B 1B 1B 1B 1B 1B 1B 1B 1B 1B 1B 1B 1B 1B 1B 1B 1B 1B",
    "1B 1B 1B 1B 1B 1B 1B 1B 1B 1B 1B 1B 1B 1B 1B 1B 1B 1B 1B 1B 1B 1B 1B 1B 1B 1B 1B 1B 1B 1B",
    "1B 1B 1B 1B 1B 1B 1B 1B 1B 1B 1B 1B 1B 1B 1B 1B 1B 1B 1B 1B 1B 1B 1B 1B 1B 1B 1B 1B 1B 1B",
    "1B 1B 1B 1B 1B 1B 1B 1B 1B 1B 1B 1B 1B 1B 1B 1B 1B 1B 1B 1B 1B 1B 1B 1B 1B 1B 1B 1B 1B 1B",
    "1B 1B 1B 1B 1B 1B 1B 1B 1B 1B 1B 1B 1B 1B 1B 1B 1B 1B 1B 1B 1B 1B 1B 1B 1B 1B 1B 1B 1B 1B",
    "1B 1B 1B 1B 1B 1B 1B 1B 1B 1B"]),
  (["lvt"],
    ["AC01-1A 1-1A 1-1A 1-1A 1-1A 1-1A 1-1A 1-1A 1-1A 1-1A 1-1A 1-1A 1-1A 1-1A 1-1A 1-1A 1-1A",
    "1-1A 1-1A 1-1A 1-1A 1-1A 1-1A 1-1A 1-1A 1-1A 1-1A 1-1A 1-1A 1-1A 1-1A 1-1A 1-1A 1-1A 1-1A",
    "1-1A 1-1A 1-1A 1-1A 1-1A 1-1A 1-1A 1-1A 1-1A 1-1A 1-1A 1-1A 1-1A 1-1A 1-1A 1-1A 1-1A 1-1A",
    "1-1A 1-1A 1-1A 1-1A 1-1A 1-1A 1-1A 1-1A 1-1A 1-1A 1-1A 1-1A 1-1A 1-1A 1-1A 1-1A 1-1A 1-1A",
    "1-1A 1-1A 1-1A 1-1A 1-1A 1-1A 1-1A 1-1A 1-1A 1-1A 1-1A 1-1A 1-1A 1-1A 1-1A 1-1A 1-1A 1-1A",
    "1-1A 1-1A 1-1A 1-1A 1-1A 1-1A 1-1A 1-1A 1-1A 1-1A 1-1A 1-1A 1-1A 1-1A 1-1A 1-1A 1-1A 1-1A",
    "1-1A 1-1A 1-1A 1-1A 1-1A 1-1A 1-1A 1-1A 1-1A 1-1A 1-1A 1-1A 1-1A 1-1A 1-1A 1-1A 1-1A 1-1A",
    "1-1A 1-1A 1-1A 1-1A 1-1A 1-1A 1-1A 1-1A 1-1A 1-1A 1-1A 1-1A 1-1A 1-1A 1-1A 1-1A 1-1A 1-1A",
    "1-1A 1-1A 1-1A 1-1A 1-1A 1-1A 1-1A 1-1A 1-1A 1-1A 1-1A 1-1A 1-1A 1-1A 1-1A 1-1A 1-1A 1-1A",
    "1-1A 1-1A 1-1A 1-1A 1-1A 1-1A 1-1A 1-1A 1-1A 1-1A 1-1A 1-1A 1-1A 1-1A 1-1A 1-1A 1-1A 1-1A",
    "1-1A 1-1A 1-1A 1-1A 1-1A 1-1A 1-1A 1-1A 1-1A 1-1A 1-1A 1-1A 1-1A 1-1A 1-1A 1-1A 1-1A 1-1A",
    "1-1A 1-1A 1-1A 1-1A 1-1A 1-1A 1-1A 1-1A 1-1A 1-1A 1-1A 1-1A 1-1A 1-1A 1-1A 1-1A 1-1A 1-1A",
    "1-1A 1-1A 1-1A 1-1A 1-1A 1-1A 1-1A 1-1A 1-1A 1-1A 1-1A 1-1A 1-1A 1-1A 1-1A 1-1A 1-1A 1-1A",
    "1-1A 1-1A 1-1A 1-1A 1-1A 1-1A 1-1A 1-1A 1-1A 1-1A 1-1A 1-1A 1-1A 1-1A 1-1A 1-1A 1-1A 1-1A",
    "1-1A 1-1A 1-1A 1-1A 1-1A 1-1A 1-1A 1-1A 1-1A 1-1A 1-1A 1-1A 1-1A 1-1A 1-1A 1-1A 1-1A 1-1A",
    "1-1A 1-1A 1-1A 1-1A 1-1A 1-1A 1-1A 1-1A 1-1A 1-1A 1-1A 1-1A 1-1A 1-1A 1-1A 1-1A 1-1A 1-1A",
    "1-1A 1-1A 1-1A 1-1A 1-1A 1-1A 1-1A 1-1A 1-1A 1-1A 1-1A 1-1A 1-1A 1-1A 1-1A 1-1A 1-1A 1-1A",
    "1-1A 1-1A 1-1A 1-1A 1-1A 1-1A 1-1A 1-1A 1-1A 1-1A 1-1A 1-1A 1-1A 1-1A 1-1A 1-1A 1-1A 1-1A",
    "1-1A 1-1A 1-1A 1-1A 1-1A 1-1A 1-1A 1-1A 1-1A 1-1A 1-1A 1-1A 1-1A 1-1A 1-1A 1-1A 1-1A 1-1A",
    "1-1A 1-1A 1-1A 1-1A 1-1A 1-1A 1-1A 1-1A 1-1A 1-1A 1-1A 1-1A 1-1A 1-1A 1-1A 1-1A 1-1A 1-1A",
    "1-1A 1-1A 1-1A 1-1A 1-1A 1-1A 1-1A 1-1A 1-1A 1-1A 1-1A 1-1A 1-1A 1-1A 1-1A 1-1A 1-1A 1-1A",
    "1-1A 1-1A 1-1A 1-1A 1-1A 1-1A 1-1A 1-1A 1-1A 1-1A 1-1A 1-1A 1-1A 1-1A 1-1A 1-1A 1-1A 1-1A",
    "1-1A 1-1A 1-1A 1-1A"]),
  (["pp", "prepend"],
    ["600-5 D7 31 180-1 50 46B 1036E F F4-1 20D 56D 1 F8 49-5 2BC 1BB"]),
  (["ri", "regionalindicator"],
    ["1F1E6-19"]),
  (["sm", "spacingmark"],
    ["903 37 2-2 8-3 1-1 32-1 3B-1 6-1 2-1 36 3A-2 42 3A-2 8 1-1 35-1 3C 6-1 2-1 72 1-1 3-2 1-2",
    "34-2 3D-3 3D-1 3A 2 1-1 2E E-1 3B-1 5-2 1-2 35-1 4C-1 6-6 13-1 3F 7F 8A-1 3F B1 9-1 19-1",
    "2C 731 7-7 1-1 15A-3 2-2 4-1 1-5 E0-1 3A 1 15-5 91 39-3 40 1E 4-1 3F 2-2 1 35-7 8-1 AB 15",
    "8B2B-1 2 58-1 32-F 8E 30 30-1 4-1 2-1 6F-1 2-1 18 9D 2-1 5 ED-1 1-1 1-1 1 6413 1 7F 2D-2",
    "4-1 73 18-1 3B 30-2 9 E 5D-2 3-1 AC-2 1F-1 3B 1-3 2-1 2-1 15-1 55-1 F 1-1 67-2 8-1 3 6B-1",
    "6 1-1 1 2 EE-1 6-3 2 71-2 8-1 1 6D 1-1 6E 7 105-2 9 F8-4 1-1 7 1 8E-2 8-3 4 54 1D-1 3E 197",
    "E 6A 7 2 D5-4 4-1 1 15E-1 C 30-1 8-1 41EA-2 E24-36"]),
  (["t"],
    ["11A8-57 C5CB-30"]),
  (["v"],
    ["1160-47 C608-16 959C 3-3"]),
  (["zwj"],
    ["200D"])]

def graphemeBreak? (name : String) : Option (List CodeRange) :=
  (graphemeBreaks.find? (·.1.contains name)).map fun row => readStepLines row.2

end DocSchema.Unicode
