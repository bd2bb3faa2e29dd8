import ImageMetadata.Tiff.DirectoryId

/-!
# Tags

An entry of a directory has a numeric tag. Which tags are known, and what they are called, depends
on the family of the directory. Four tags mark an entry whose value is the offset of another
directory.
-/

namespace ImageMetadata.Tiff

namespace Tag

/-- The tags of directories that describe an image. -/
def imageTags : List (Nat × String) :=
  [(254, "NewSubfileType"), (255, "SubfileType"), (256, "ImageWidth"), (257, "ImageLength"),
    (258, "BitsPerSample"), (259, "Compression"), (262, "PhotometricInterpretation"),
    (263, "Threshholding"), (264, "CellWidth"), (265, "CellLength"), (266, "FillOrder"),
    (269, "DocumentName"), (270, "ImageDescription"), (271, "Make"), (272, "Model"),
    (273, "StripOffsets"), (274, "Orientation"), (277, "SamplesPerPixel"), (278, "RowsPerStrip"),
    (279, "StripByteCounts"), (280, "MinSampleValue"), (281, "MaxSampleValue"),
    (282, "XResolution"), (283, "YResolution"), (284, "PlanarConfiguration"), (285, "PageName"),
    (286, "XPosition"), (287, "YPosition"), (288, "FreeOffsets"), (289, "FreeByteCounts"),
    (290, "GrayResponseUnit"), (291, "GrayResponseCurve"), (292, "T4Options"), (293, "T6Options"),
    (296, "ResolutionUnit"), (297, "PageNumber"), (301, "TransferFunction"), (305, "Software"),
    (306, "DateTime"), (315, "Artist"), (316, "HostComputer"), (317, "Predictor"),
    (318, "WhitePoint"), (319, "PrimaryChromaticities"), (320, "ColorMap"), (321, "HalftoneHints"),
    (322, "TileWidth"), (323, "TileLength"), (324, "TileOffsets"), (325, "TileByteCounts"),
    (330, "SubIFDs"), (332, "InkSet"), (333, "InkNames"), (334, "NumberOfInks"), (336, "DotRange"),
    (337, "TargetPrinter"), (338, "ExtraSamples"), (339, "SampleFormat"), (340, "SMinSampleValue"),
    (341, "SMaxSampleValue"), (342, "TransferRange"), (347, "JPEGTables"), (512, "JPEGProc"),
    (513, "JPEGInterchangeFormat"), (514, "JPEGInterchangeFormatLength"),
    (515, "JPEGRestartInterval"), (517, "JPEGLosslessPredictors"), (518, "JPEGPointTransforms"),
    (519, "JPEGQTables"), (520, "JPEGDCTables"), (521, "JPEGACTables"), (529, "YCbCrCoefficients"),
    (530, "YCbCrSubSampling"), (531, "YCbCrPositioning"), (532, "ReferenceBlackWhite"),
    (700, "XMLPacket"), (18246, "Rating"), (18249, "RatingPercent"), (32781, "ImageID"),
    (33432, "Copyright"), (33550, "ModelPixelScale"), (33723, "IPTC"), (33922, "ModelTiePoint"),
    (34264, "ModelTransformation"), (34377, "Photoshop"), (34665, "ExifIFD"),
    (34675, "ICCProfile"), (34735, "GeoKeyDirectory"), (34736, "GeoDoubleParams"),
    (34737, "GeoAsciiParams"), (34853, "GPSIFD"), (37724, "ImageSourceData"), (40091, "XPTitle"),
    (40092, "XPComment"), (40093, "XPAuthor"), (40094, "XPKeywords"), (40095, "XPSubject"),
    (50341, "PrintImageMatching"), (50706, "DNGVersion"), (50707, "DNGBackwardVersion"),
    (50708, "UniqueCameraModel"), (50709, "LocalizedCameraModel"), (50740, "DNGPrivateData")]

/-- The tags of the EXIF directory. -/
def exifTags : List (Nat × String) :=
  [(33434, "ExposureTime"), (33437, "FNumber"), (34850, "ExposureProgram"),
    (34852, "SpectralSensitivity"), (34855, "ISOSpeedRatings"), (34856, "OECF"),
    (34864, "SensitivityType"), (34865, "StandardOutputSensitivity"),
    (34866, "RecommendedExposureIndex"), (34867, "ISOSpeed"), (34868, "ISOSpeedLatitudeyyy"),
    (34869, "ISOSpeedLatitudezzz"), (36864, "ExifVersion"), (36867, "DateTimeOriginal"),
    (36868, "DateTimeDigitized"), (36880, "OffsetTime"), (36881, "OffsetTimeOriginal"),
    (36882, "OffsetTimeDigitized"), (37121, "ComponentsConfiguration"),
    (37122, "CompressedBitsPerPixel"), (37377, "ShutterSpeedValue"), (37378, "ApertureValue"),
    (37379, "BrightnessValue"), (37380, "ExposureBiasValue"), (37381, "MaxApertureValue"),
    (37382, "SubjectDistance"), (37383, "MeteringMode"), (37384, "LightSource"), (37385, "Flash"),
    (37386, "FocalLength"), (37396, "SubjectArea"), (37500, "MakerNote"), (37510, "UserComment"),
    (37520, "SubsecTime"), (37521, "SubsecTimeOriginal"), (37522, "SubsecTimeDigitized"),
    (37888, "Temperature"), (37889, "Humidity"), (37890, "Pressure"), (37891, "WaterDepth"),
    (37892, "Acceleration"), (37893, "CameraElevationAngle"), (40960, "FlashpixVersion"),
    (40961, "ColorSpace"), (40962, "PixelXDimension"), (40963, "PixelYDimension"),
    (40964, "RelatedSoundFile"), (40965, "InteroperabilityIFD"), (41483, "FlashEnergy"),
    (41484, "SpatialFrequencyResponse"), (41486, "FocalPlaneXResolution"),
    (41487, "FocalPlaneYResolution"), (41488, "FocalPlaneResolutionUnit"),
    (41492, "SubjectLocation"), (41493, "ExposureIndex"), (41495, "SensingMethod"),
    (41728, "FileSource"), (41729, "SceneType"), (41730, "CFAPattern"), (41985, "CustomRendered"),
    (41986, "ExposureMode"), (41987, "WhiteBalance"), (41988, "DigitalZoomRatio"),
    (41989, "FocalLengthIn35mmFilm"), (41990, "SceneCaptureType"), (41991, "GainControl"),
    (41992, "Contrast"), (41993, "Saturation"), (41994, "Sharpness"),
    (41995, "DeviceSettingDescription"), (41996, "SubjectDistanceRange"), (42016, "ImageUniqueID"),
    (42032, "CameraOwnerName"), (42033, "BodySerialNumber"), (42034, "LensSpecification"),
    (42035, "LensMake"), (42036, "LensModel"), (42037, "LensSerialNumber"),
    (42080, "CompositeImage"), (42081, "SourceImageNumberOfCompositeImage"),
    (42082, "SourceExposureTimesOfCompositeImage"), (42240, "Gamma"),
    (50341, "PrintImageMatching")]

/-- The tags of the GPS directory. -/
def gpsTags : List (Nat × String) :=
  [(0, "GPSVersionID"), (1, "GPSLatitudeRef"), (2, "GPSLatitude"), (3, "GPSLongitudeRef"),
    (4, "GPSLongitude"), (5, "GPSAltitudeRef"), (6, "GPSAltitude"), (7, "GPSTimeStamp"),
    (8, "GPSSatellites"), (9, "GPSStatus"), (10, "GPSMeasureMode"), (11, "GPSDOP"),
    (12, "GPSSpeedRef"), (13, "GPSSpeed"), (14, "GPSTrackRef"), (15, "GPSTrack"),
    (16, "GPSImgDirectionRef"), (17, "GPSImgDirection"), (18, "GPSMapDatum"),
    (19, "GPSDestLatitudeRef"), (20, "GPSDestLatitude"), (21, "GPSDestLongitudeRef"),
    (22, "GPSDestLongitude"), (23, "GPSDestBearingRef"), (24, "GPSDestBearing"),
    (25, "GPSDestDistanceRef"), (26, "GPSDestDistance"), (27, "GPSProcessingMethod"),
    (28, "GPSAreaInformation"), (29, "GPSDateStamp"), (30, "GPSDifferential"),
    (31, "GPSHPositioningError")]

/-- The tags of the interoperability directory. -/
def interopTags : List (Nat × String) :=
  [(1, "InteroperabilityIndex"), (2, "InteroperabilityVersion"), (4096, "RelatedImageFileFormat"),
    (4097, "RelatedImageWidth"), (4098, "RelatedImageLength")]

def subIfds : Nat := 0x014A
def exifIfd : Nat := 0x8769
def gpsIfd : Nat := 0x8825
def interopIfd : Nat := 0xA005

end Tag

/-- The directories that share a set of tags. -/
inductive Family where
  | image
  | exif
  | gps
  | interop
  deriving DecidableEq, Repr

namespace Family

/-- The tags of a family with their names. -/
def tags : Family → List (Nat × String)
  | image => Tag.imageTags
  | exif => Tag.exifTags
  | gps => Tag.gpsTags
  | interop => Tag.interopTags

/-- The name of a tag in a family. -/
def name? (family : Family) (tag : Nat) : Option String := family.tags.lookup tag

/-- The tag with a given name in a family. -/
def tag? (family : Family) (name : String) : Option Nat :=
  (family.tags.find? fun t => t.2 == name).map Prod.fst

/-- The family with a given label. -/
def ofLabel? (label : String) : Option Family :=
  [("TIFF", image), ("EXIF", exif), ("GPS", gps), ("INTEROP", interop)].lookup label

end Family

/-- The family of a directory. -/
def DirectoryId.family : DirectoryId → Family
  | ifd _ | subIfd _ => .image
  | exif => .exif
  | gps => .gps
  | interop => .interop

/-- What an entry that holds an offset leads to. -/
inductive Pointer where
  | fixed (id : DirectoryId)
  | subIfd
  deriving DecidableEq, Repr

/-- What the entries with a tag lead to, if they hold offsets of directories. -/
def Pointer.ofTag? (tag : Nat) : Option Pointer :=
  if tag = Tag.exifIfd then some (fixed .exif)
  else if tag = Tag.gpsIfd then some (fixed .gps)
  else if tag = Tag.interopIfd then some (fixed .interop)
  else if tag = Tag.subIfds then some subIfd
  else none

end ImageMetadata.Tiff
