import DocSchema.Unicode.Range

/-!
# Word breaks

What characters are to the division of text into words. Values that no character has
are not listed, nor is the value of all other characters.
-/
namespace DocSchema.Unicode

def wordBreaks : List (List String × List String) := [
  (["le", "aletter"],
    ["41-19 6-19 2F A 4 5-16 1-1E 1-1DF 6-21 70-4 1-1 2-3 1 6 1-2 1 1-13 1-52 1-8A 8-A5 1-25 2-3",
    "1 1-28 1 68 2C-2A 23-1 1-62 1 F-1 7-1 A-2 2 F-1 1-1D 1D-58 B 18-20 9-1 4 5-15 4 9 3 17-18",
    "7-A 5-17 1-5 11-29 3A-35 3 12 7-9 F-F 4-7 2-1 2-15 1-6 1 3-3 3 10 D-1 1-2 E-1 A 8-5 4-1",
    "2-15 1-6 1-1 1-1 1-1 1F-3 1 13-2 10-8 1-2 1-15 1-6 1-1 1-4 3 12 F-1 17 B-7 2-1 2-15 1-6",
    "1-1 1-4 3 1E-1 1-2 F 11 1-5 3-2 1-3 3-1 1 1-1 3-1 3-2 3-B 16 34-7 1-2 1-16 1-F 3 1A-2 2",
    "2-1 1E 4-7 1-2 1-16 1-9 1-4 3 1F-1 1-1 F-1 11-8 1-2 1-28 2 10 5-2 8-2 18-5 5-11 3-17 1-8 1",
    "2-6 139 3F-7 1-23 1B-4 113-25 1 5 2-2A 1-14C 1-3 2-6 1 1-3 2-28 1-3 2-20 1-3 2-6 1 1-3 2-E",
    "1-38 1-3 2-42 25-F 10-55 2-5 3-26B 2-10 1-19 5-4A 3-A 7-11 D-12 E-11 E-C 1-2 AF-58 7-4",
    "2-21 1 5-45 A-1E E1-16 EE-2E 11-7 36-1D D-1 A-2B 1A-23 29-2 A-23 2-A 5-2A 2-2 29-3 1-5 1-1",
    "3 5-BF 40-115 2-5 2-25 2-5 2-7 1 1 1 1-1E 2-34 1-6 1 3-2 1-6 3-3 2-5 4-C 5-2 1-6 74 D 10-C",
    "65 4 2-9 1 3-4 6 1 1 1-3 1-A 2-3 5-4 4 11-28 32D-33 716-E4 6-3 3-1 C-25 1 5 2-37 7 10-16",
    "9-6 1-6 1-6 1-6 1-6 1-6 1-6 1-6 50 1D5 35-1 C8-2A 1-5D 11-1F 6E40-48C 43-2D 2-10C 3-F A-1",
    "14-2E 10-1E 2-4F 18-C5 2-1 1 1-7 15-F 1-2 1-3 1-16 1D-33 E-31 3E-5 3 1-1 B-1B A-16 19-1C",
    "7-2E 1C 30-28 17-2 1-7 94-A 7-2 C-5 2-5 2-5 9-6 1-6 1-39 6-72 1D-2BA3 C-16 4-30 2304-6 C-4",
    "38-61 21-16A 12-3F 2-35 28-B 74-4 1-86 24-19 6-19 45-1E 3-5 2-5 2-5 2-2 23-B 1-19 1-12 1-1",
    "1-E 2-D 22-7A 45-34 10B-1C 3-30 2F-1F D-1D 5-25 A-1D 2-23 4-7 1-4 2A-9D 12-23 4-23 4-27",
    "8-33 C-A 1-E 1-6 1-1 1-A 1-E 1-6 1-1 3-33 C-136 9-15 A-7 18-5 1-29 1-8 45-5 2 1-2B 1-1 3",
    "2-16 A-16 9-1E 41-12 1-1 A-15 A-19 46-37 6-1 40 F-3 1-2 1-1C 2A-1C 3-1C 23-7 1-1B 1B-35",
    "A-15 A-12 D-11 6E-48 37-32 D-32 D-23 26-1B 9-16 FA-29 6-1 10-2 3B-1C A 8-15 2A-11 2E-14",
    "1B-16 C-34 39-1 2 D-2C 20-18 1A-23 1D 2 8-22 3 C-2F E-3 15 1 23-11 1-18 13-1 3F-6 1 1-3",
    "1-E 1-9 7-2E 26-7 2-1 2-15 1-6 1-1 1-4 3 12 C-4 1E-9 1 2 1-25 1 19 1 2C-34 12-3 14-2 1E-2F",
    "14-1 1 B8-2E 29-3 24-2F 14 3B-2A D 147-2B 74-3F 1F-7 2 2-7 1-1 1-17 F 1 5E-7 2-26 10 1 1C",
    "A-27 7 15 B-2D 13 12-48 C7-20 1F-8 1-24 11 31-1D 70-6 1-1 1-25 15 19-5 1-1 1-1F E 147-12 F",
    "1-C 1-21 7C 4F-399 66-6E 11-C3 A4C-60 F-42F 11-5 19-F9A 5-246 1AB9-1D 6E2-238 7-1E 11-4E",
    "11-1D 12-2F 10-3 1F-14 5-12 1B0-2C D3-3F 80-4A 5 42-C 40-1 1 4C1C-6A 5-C 3-8 7-9 1766-54",
    "1-46 1-1 2 2-1 2-3 1-B 1 1-6 1-40 1-3 2-7 1-6 1-1B 1-3 1-4 1 3-6 1-153 2-18 1-18 1-1E 1-18",
    "1-1E 1-18 1-1E 1-18 1-1E 1-18 1-7 734-1E 6-5 105-3D 92-2C A-6 10 141-1D 12-2B 1E4-1B E4-1D",
    "2 1EF-6 1-3 1-1 1-E 1-C4 3B-43 7 4B4-3 1-1A 1-1 1 2 1-9 1-3 1 1 6 4 1 1 1-2 1-1 1 2 1 1 1",
    "1 1-1 1 2-3 1-6 1-3 1-3 1 1-9 1-10 5-2 1-4 1-10 274-19 6-19 6-19"]),
  (["cr"],
    ["D"]),
  (["dq", "doublequote"],
    ["22"]),
  (["extend"],
    ["300-6F 113-6 107-2C 1 1-1 1-1 1 48-A 30-14 10 65-6 2-5 2-1 1-3 23 1E-1A 5B-A 3A-8 9 18-3",
    "1-8 1-2 1-4 2B-2 3B-8 2A-17 1-20 36-2 1-11 1-6 A-1 1D-2 38 1-6 2-1 2-2 9 A-1 1A 2-2 38 1-4",
    "4-1 2-2 3 1E-1 3 B-2 38 1-7 1-2 1-2 14-1 16-5 1-2 38 1-6 2-1 2-2 7-2 A-1 1E 3B-4 3-2 1-3 9",
    "28-4 37 1-6 1-2 1-3 7-1 B-1 1D-2 38 1-6 1-2 1-3 7-1 B-1 F C-3 37-1 1-6 1-2 1-3 9 A-1 1D-2",
    "46 4-5 1 1-7 12-1 3D 2-6 C-7 62 2-8 B-6 49-1 1B 1 1 4-1 31-13 1-1 5-A 1-23 9 64-13 17-3",
    "4-2 1-2 2-6 3-3 D-B 1 A-3 2BF-2 3B2-3 1C-2 1D-1 1E-1 40-1F 9 2D-2 1 75-1 22 76-B 4-B DB-4",
    "39-9 1-1C 2 30-1E 31-4 2F-10 26-8 C-2 1E-C 38-D 30-13 98-2 1-14 4 6 2-2 C6-3F 20C C3-20",
    "BFE-2 8D 60-1F 22A-5 69-1 75D4-3 1-9 20-1 50-1 110 3 4 17-4 4 53-1 32-11 1A-11 D 26-7 19-C",
    "2C-3 2F-D 24 43-D C 8-1 2D-2 32 1-2 2-1 5-1 1 29-4 5-1 EC-7 1-1 4F30 2E1-F 10-F 16E-1 25D",
    "E2 95-4 686-2 1-1 5-3 28-2 4 A5-1 23D-3 41-4 13D-1 4F-3 46-A 31-3 7A-2 35-E 29 2-1 A-3",
    "2D-A 7 3D-2 24-D 10-1 2C C-2 30-D 8-3 1-1 5C-B 6 2 9D-B 15-3 37-1 1-6 2-1 2-2 9 A-1 2-6",
    "3-4 43-8 1 2 1-3 1-4 1 E-1 52-11 17 51-13 EB-6 2-8 1B-1 52-10 6A-C 65-E 100-E F5-5 1-1 2-3",
    "1 1-1 8D-6 2-6 3 1C-9 28-6 1-3 8 9-A 2E-F 195-7 1-7 52-15 1-D 7A-5 3 1-1 1-6 1 42-4 1-1",
    "1-4 15B-3 9-1 1 30-6 3-4 17 14E5 6-E 2CC8-11 9C0-4 3B-6 418 1-36 7-3 51 B-1 4CAB-1 1261-2D",
    "2-16 21E-4 3-5 8-7 2-6 1E-3 94-2 7BB-36 4-31 8 E 16-4 1-E 550-6 1-10 2-6 1-1 1-4 64 A0-6",
    "177 3D-3 1FC-3 FE-1 2E0-6 6D-6 AB0-4 C0C20-5F 80-EF"]),
  (["ex", "extendnumlet"],
    ["5F 1FCF F-1 13 DDDE-1 18-2 EF"]),
  (["fo", "format"],
    ["AD 56E 11F1 7FF-1 1A-4 31-4 1-9 DE8F F9-2 3434-F 8860-3 14CF-7 C2E86"]),
  (["hl", "hebrewletter"],
    ["5D0-1A 4-3 F52A 1-9 1-C 1-4 1 1-1 1-1 1-9"]),
  (["ka", "katakana"],
    ["3031-4 65-1 3-5A 1-3 F0-F D0-2E 1-57 CC0E-37 B052-3 1-6 1-1 1 11F-2 32 E-3"]),
  (["lf"],
    ["A"]),
  (["ml", "midletter"],
    ["3A 7C 2CF 1D7 94 1A32 DDEB 41 C4"]),
  (["mn", "midnum"],
    ["2C E 342 20A 82-1 5E 18B 184B DE0B 3 B7 E"]),
  (["mb", "midnumlet"],
    ["2E 1FE9-1 A DE2D B4 6"]),
  (["nl", "newline"],
    ["B-1 78 1FA2-1"]),
  (["nu", "numeric"],
    ["30-9 5C6-5 5A-9 1 71 12-9 C6-9 C6-1 50 83-9 76-9 76-9 76-9 76-9 76-9 76-9 76-9 76-9 76-9",
    "60-9 76-9 46-9 116-9 46-9 746-9 26-9 12C-9 80-A A5-9 6-9 B6-9 56-9 86-9 6-9 89C6-9 2A6-9",
    "26-9 C6-9 16-9 56-9 196-9 5316-9 586-9 886-9 6-9 31C-9 4D F 22-9 3C-9 90-9 116-9 156-9",
    "76-9 176-9 66-9 6-13 4C-9 1A6-9 66-9 296-9 56-9 F6-9 46-9 1A6-9 41D6-9 926-9 56-9 86-9",
    "216-9 5F76-9 AD4-31 940-9 1A6-9 1F6-9 F7-9 355-9 1296-9"]),
  (["ri", "regionalindicator"],
    ["1F1E6-19"]),
  (["sq", "singlequote"],
    ["27"]),
  (["wsegspace"],
    ["20 165F 97F-6 1-2 54 FA0"]),
  (["zwj"],
    ["200D"])]

def wordBreak? (name : String) : Option (List CodeRange) :=
  (wordBreaks.find? (·.1.contains name)).map fun row => readStepLines row.2

end DocSchema.Unicode
